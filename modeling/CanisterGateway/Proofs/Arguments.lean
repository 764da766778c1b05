import CanisterGateway.Canister.Interface
import CanisterGateway.Proofs.Reading

/-!
# What a canister reads of a request

The argument of a call is a message of one record. A canister that reads it by the types that it
brings finds the request in it, field by field: the texts as texts, the body as a byte string, and
the headers as a list of pairs in their order. The argument of an update has no field for the
certificate version.

A message tells lengths by numbers of sixty-four bits, which bounds what can be read. That requests
are told apart by their arguments holds without a bound.

## Main results

* `reads_commonValues` — the fields that both arguments have.
* `carriedBy_queryArgument`, `carriedBy_updateArgument` — each argument, read as a message.
* `queryArgument_injective`, `updateArgument_eq_iff` — which requests have the same argument.
-/

namespace CanisterGateway.Canister

open Bytes (Reads inOrder)
open Candid (TypeRef TypeEntry TypeTable Value WritesField typeEntry typeRef fieldId)

/-! ## Requests as values -/

/-- A header as a value. -/
def headerValue (header : Header) : Value :=
  .record [(.id 0, .text header.1), (.id 1, .text header.2)]

/-- A certificate version as a value. -/
def shownVersion : Option UInt16 → Value
  | none => .none
  | some version => .opt (.fixed .nat16 version.toNat)

/-- The record of a request, with other fields after those that all arguments have. -/
def Request.shown (request : Request) (others : List (Candid.Label × Value)) : Value :=
  .record ((.id (fieldId "url"), .text request.url)
    :: (.id (fieldId "method"), .text request.method) :: (.id (fieldId "body"), .blob request.body)
    :: (.id (fieldId "headers"), .vec (request.headers.map headerValue)) :: others)

/-- The value shows a request, certificate version apart. -/
structure Request.ShownBy (request : Request) (value : Value) : Prop where
  url : value.field? "url" = some (.text request.url)
  method : value.field? "method" = some (.text request.method)
  body : value.field? "body" = some (.blob request.body)
  headers : value.field? "headers" = some (.vec (request.headers.map headerValue))

/-- No part of the request is longer than a number of sixty-four bits can tell. -/
structure Request.Fits (request : Request) : Prop where
  url : (Bytes.ofText request.url).length < UInt64.size
  method : (Bytes.ofText request.method).length < UInt64.size
  body : request.body.length < UInt64.size
  headers : request.headers.length < UInt64.size
  texts : ∀ header ∈ request.headers, (Bytes.ofText header.1).length < UInt64.size ∧
    (Bytes.ofText header.2).length < UInt64.size

/-! ## The types of arguments -/

/-- The fields that both arguments have, with their types. -/
def commonTypes : List (Nat × TypeRef) :=
  [(fieldId "url", .primitive .text), (fieldId "method", .primitive .text),
    (fieldId "body", .entry 1), (fieldId "headers", .entry 2)]

/-- The types of a header's two parts. -/
def headerTypes : List (Nat × TypeRef) :=
  [(0, .primitive .text), (1, .primitive .text)]

/-- The types that both arguments refer to. -/
def commonTable : TypeTable :=
  [.vec (.primitive (.fixed .nat8)), .vec (.entry 3), .record headerTypes]

/-- The table of an argument with the given fields, and with more types. -/
def argumentTable (fields : List (Nat × TypeRef)) (more : TypeTable) : TypeTable :=
  .record fields :: (commonTable ++ more)

/-- The field of the certificate version. -/
def versionType : Nat × TypeRef :=
  (fieldId "certificate_version", .entry 4)

def queryTable : TypeTable :=
  argumentTable (commonTypes ++ [versionType]) [.opt (.primitive (.fixed .nat16))]

def updateTable : TypeTable :=
  argumentTable commonTypes []

theorem fieldId_lt (name : String) : fieldId name < UInt32.size := by
  have hFold : ∀ (bytes : Bytes) (start : Nat), start < UInt32.size →
      bytes.foldl (fun id b => (id * 223 + b.toNat) % UInt32.size) start < UInt32.size := by
    intro bytes
    induction bytes with
    | nil => exact fun start hStart => hStart
    | cons b bytes ih => exact fun start _ => ih _ (Nat.mod_lt _ (by decide))
  exact hFold (Bytes.ofText name) 0 (by decide)

theorem writesField_fieldCode (name : String) {code : UInt8} {type : TypeRef}
    (h : Reads typeRef [code] type) : WritesField (fieldCode name code) (fieldId name, type) :=
  ⟨fieldId_lt name, [code], rfl, h⟩

theorem reads_textCode : Reads typeRef [textCode] (.primitive .text) :=
  Candid.reads_typeRef_primitive (by decide) (by decide) rfl

theorem reads_byteCode : Reads typeRef [0x7B] (.primitive (.fixed .nat8)) :=
  Candid.reads_typeRef_primitive (by decide) (by decide) rfl

theorem reads_versionCode : Reads typeRef [0x7A] (.primitive (.fixed .nat16)) :=
  Candid.reads_typeRef_primitive (by decide) (by decide) rfl

/-- A reference to one of the first entries. -/
theorem reads_entryCode (code : UInt8) (h : code < 64) :
    Reads typeRef [code] (.entry code.toNat) :=
  Candid.reads_typeRef_entry h

theorem writes_commonFields : List.Forall₂ WritesField commonFields commonTypes :=
  .cons (writesField_fieldCode "url" reads_textCode)
    (.cons (writesField_fieldCode "method" reads_textCode)
      (.cons (writesField_fieldCode "body" (reads_entryCode 1 (by decide)))
        (.cons (writesField_fieldCode "headers" (reads_entryCode 2 (by decide))) .nil)))

/-- A small number takes one byte. -/
theorem writesField_small {n : Nat} (hn : n < 128) :
    WritesField [UInt8.ofNat n, textCode] (n, .primitive .text) := by
  refine ⟨Nat.lt_trans hn (by decide), [textCode], ?_, reads_textCode⟩
  rw [Bytes.Leb128.encode, if_pos hn]
  rfl

theorem writes_headerFields :
    List.Forall₂ WritesField [[0, textCode], [1, textCode]] headerTypes :=
  .cons (writesField_small (by decide)) (.cons (writesField_small (by decide)) .nil)

theorem reads_commonEntries : List.Forall₂ (Reads typeEntry) commonEntries commonTable :=
  .cons (Candid.reads_typeEntry_vec reads_byteCode)
    (.cons (Candid.reads_typeEntry_vec (reads_entryCode 3 (by decide)))
      (.cons (Candid.reads_typeEntry_record (Candid.reads_fields writes_headerFields (by decide)))
        .nil))

theorem reads_queryTypes : Reads Candid.typeSection queryTypes (queryTable, [.entry 0]) := by
  have hVersion : WritesField (fieldCode "certificate_version" 4) versionType :=
    writesField_fieldCode "certificate_version" (reads_entryCode 4 (by decide))
  have hFields := List.rel_append writes_commonFields (.cons hVersion .nil)
  have hRecord := Candid.reads_typeEntry_record (Candid.reads_fields hFields (by decide))
  have hMore := List.rel_append reads_commonEntries
    (.cons (Candid.reads_typeEntry_opt reads_versionCode) .nil)
  exact Candid.reads_typeSection (.cons hRecord hMore)
    (.cons (reads_entryCode 0 (by decide)) .nil) (by decide) (by decide) (by decide +kernel)

theorem reads_updateTypes : Reads Candid.typeSection updateTypes (updateTable, [.entry 0]) := by
  have hRecord := Candid.reads_typeEntry_record
    (Candid.reads_fields writes_commonFields (by decide))
  have hMore : List.Forall₂ (Reads typeEntry) commonEntries (commonTable ++ []) :=
    reads_commonEntries
  exact Candid.reads_typeSection (.cons hRecord hMore)
    (.cons (reads_entryCode 0 (by decide)) .nil) (by decide) (by decide) (by decide +kernel)

/-! ## The values of arguments -/

section

variable {fields : List (Nat × TypeRef)} {more : TypeTable} {depth : Nat}

theorem reads_textContent {table : TypeTable} {characters : String}
    (h : (Bytes.ofText characters).length < UInt64.size) :
    Reads (Candid.value table (depth + 1) (.primitive .text))
      (countedContent (Bytes.ofText characters)) (.text characters) :=
  Candid.reads_textValue h

theorem reads_header {header : Header} (hName : (Bytes.ofText header.1).length < UInt64.size)
    (hValue : (Bytes.ofText header.2).length < UInt64.size) :
    Reads (Candid.value (argumentTable fields more) (depth + 2) (.entry 3))
      (countedContent (Bytes.ofText header.1) ++ countedContent (Bytes.ofText header.2))
      (headerValue header) := by
  have hEntry : (argumentTable fields more)[3]? = some (.record headerTypes) := rfl
  have hParts : Reads (inOrder (headerTypes.map fun entry =>
        Candid.value (argumentTable fields more) (depth + 1) entry.2))
      (countedContent (Bytes.ofText header.1) ++ (countedContent (Bytes.ofText header.2) ++ []))
      [.text header.1, .text header.2] :=
    Reads.inOrder_cons (reads_textContent hName)
      (Reads.inOrder_cons (reads_textContent hValue) Reads.inOrder_nil)
  rw [List.append_nil] at hParts
  exact Candid.reads_record hEntry hParts

/-- The header list is read in its order, repetitions included. -/
theorem reads_headers {headers : List Header} (hLength : headers.length < UInt64.size)
    (hTexts : ∀ header ∈ headers, (Bytes.ofText header.1).length < UInt64.size ∧
      (Bytes.ofText header.2).length < UInt64.size) :
    Reads (Candid.value (argumentTable fields more) (depth + 3) (.entry 2))
      (counted (headers.map fun (name, value) =>
        countedContent (Bytes.ofText name) ++ countedContent (Bytes.ofText value)))
      (.vec (headers.map headerValue)) := by
  have hEntry : (argumentTable fields more)[2]? = some (.vec (.entry 3)) := rfl
  refine Candid.reads_vec hEntry (by decide) ?_ (by rwa [List.length_map])
  rw [List.forall₂_map_left_iff, List.forall₂_map_right_iff, List.forall₂_same]
  intro header hMem
  exact reads_header (hTexts header hMem).1 (hTexts header hMem).2

/-- The common fields are read in front of whatever other fields there are. -/
theorem reads_commonValues {request : Request} (h : request.Fits)
    {later : List (Bytes.Reader Value)} {front : Bytes} {values : List Value}
    (hLater : Reads (inOrder later) front values) :
    Reads (inOrder (commonTypes.map
        (fun entry => Candid.value (argumentTable fields more) (depth + 3) entry.2) ++ later))
      (request.commonValues ++ front)
      (.text request.url :: .text request.method :: .blob request.body
        :: .vec (request.headers.map headerValue) :: values) := by
  have hBody : Reads (Candid.value (argumentTable fields more) (depth + 3) (.entry 1))
      (countedContent request.body) (.blob request.body) :=
    Candid.reads_blob rfl h.body
  rw [Request.commonValues]
  simp only [List.append_assoc]
  exact Reads.inOrder_cons (reads_textContent h.url)
    (Reads.inOrder_cons (reads_textContent h.method)
      (Reads.inOrder_cons hBody
        (Reads.inOrder_cons (reads_headers h.headers h.texts) hLater)))

end

/-! ## Arguments as messages -/

/-- The fields of a request have different numbers. -/
theorem nodup_fieldIds :
    (["url", "method", "body", "headers", "certificate_version"].map fieldId).Nodup := by
  decide +kernel

theorem Request.shownBy_shown (request : Request) (others : List (Candid.Label × Value)) :
    request.ShownBy (request.shown others) := by
  have hDistinct := nodup_fieldIds
  simp only [List.map_cons, List.nodup_cons, List.mem_cons, not_or] at hDistinct
  constructor <;> simp [Request.shown, Value.field?, hDistinct]

/-- The certificate version is none of the common fields. -/
theorem Request.field?_shown_version (request : Request)
    (others : List (Candid.Label × Value)) :
    (request.shown others).field? "certificate_version" =
      (Value.record others).field? "certificate_version" := by
  have hDistinct := nodup_fieldIds
  simp only [List.map_cons, List.nodup_cons, List.mem_cons, not_or] at hDistinct
  simp [Request.shown, Value.field?, hDistinct]

theorem reads_version {version? : Option UInt16} {depth : Nat} :
    Reads (Candid.value queryTable (depth + 2) (.entry 4)) (Request.versionValue version?)
      (shownVersion version?) := by
  have hEntry : queryTable[4]? = some (.opt (.primitive (.fixed .nat16))) := rfl
  cases version? with
  | none => exact Candid.reads_none hEntry
  | some version => exact Candid.reads_some hEntry (Candid.reads_nat16 version.toNat_lt)

/-- The argument is a message that shows the request, with this in the place of the certificate
version. -/
def Request.CarriedBy (request : Request) (argument : Bytes) (version? : Option Value) : Prop :=
  ∃ message, Candid.Message.ofBytes argument = .ok message ∧ request.ShownBy message.argument ∧
    message.argument.field? "certificate_version" = version?

/-- The query method is handed the whole request. -/
theorem carriedBy_queryArgument {request : Request} (h : request.Fits) :
    request.CarriedBy request.queryArgument (some (shownVersion request.certificateVersion?)) := by
  have hRecord : ∀ more, Reads (Candid.value queryTable (4 + more) (.entry 0))
      (request.commonValues ++ Request.versionValue request.certificateVersion?)
      (request.shown [(.id versionType.1, shownVersion request.certificateVersion?)]) := by
    intro more
    have hVersion : Reads (inOrder [Candid.value queryTable (more + 3) (.entry 4)])
        (Request.versionValue request.certificateVersion? ++ [])
        [shownVersion request.certificateVersion?] :=
      Reads.inOrder_cons reads_version Reads.inOrder_nil
    have hEntry : queryTable[0]? = some (.record (commonTypes ++ [versionType])) := rfl
    rw [List.append_nil] at hVersion
    rw [Nat.add_comm]
    exact Candid.reads_record hEntry (reads_commonValues h hVersion)
  have hMessage := Candid.ofBytes_of_reads reads_queryTypes hRecord (by decide)
  rw [← List.append_assoc] at hMessage
  refine ⟨_, hMessage, request.shownBy_shown _, ?_⟩
  rw [request.field?_shown_version]
  simp [Value.field?, versionType]

/-- The update method is handed the request without a certificate version. -/
theorem carriedBy_updateArgument {request : Request} (h : request.Fits) :
    request.CarriedBy request.updateArgument none := by
  have hRecord : ∀ more, Reads (Candid.value updateTable (4 + more) (.entry 0))
      request.commonValues (request.shown []) := by
    intro more
    have hEntry : updateTable[0]? = some (.record commonTypes) := rfl
    have hValues : Reads (inOrder (commonTypes.map
        (fun entry => Candid.value updateTable (more + 3) entry.2) ++ []))
        (request.commonValues ++ []) _ := reads_commonValues h Reads.inOrder_nil
    rw [List.append_nil, List.append_nil] at hValues
    rw [Nat.add_comm]
    exact Candid.reads_record hEntry hValues
  refine ⟨_, Candid.ofBytes_of_reads reads_updateTypes hRecord (by decide),
    request.shownBy_shown _, ?_⟩
  rw [request.field?_shown_version]
  rfl

/-! ## Telling requests apart -/

/-- What is written can be told from whatever follows it. -/
def Delimited {α : Type} (write : α → Bytes) : Prop :=
  ∀ ⦃x y : α⦄ ⦃rest rest' : Bytes⦄, write x ++ rest = write y ++ rest' → x = y ∧ rest = rest'

theorem delimited_encode : Delimited Bytes.Leb128.encode :=
  fun x y _ _ h => (Bytes.reads_decode? x).cancel (Bytes.reads_decode? y) h

theorem delimited_countedContent : Delimited countedContent := by
  intro x y rest rest' h
  rw [countedContent, countedContent, List.append_assoc, List.append_assoc] at h
  have hRest := delimited_encode h
  exact List.append_inj hRest.2 hRest.1

theorem delimited_text : Delimited fun text => countedContent (Bytes.ofText text) := by
  intro x y rest rest' h
  have hContent := delimited_countedContent h
  exact ⟨Bytes.Utf8.ofText_injective hContent.1, hContent.2⟩

theorem delimited_header : Delimited fun header : Header =>
    countedContent (Bytes.ofText header.1) ++ countedContent (Bytes.ofText header.2) := by
  intro x y rest rest' h
  simp only [List.append_assoc] at h
  have hName := delimited_text h
  have hValue := delimited_text hName.2
  exact ⟨Prod.ext hName.1 hValue.1, hValue.2⟩

/-- Of two lists of one length, each thing can be told from the next. -/
theorem Delimited.flatten {α : Type} {write : α → Bytes} (hWrite : Delimited write) {xs ys : List α}
    (hLength : xs.length = ys.length) {rest rest' : Bytes}
    (h : (xs.map write).flatten ++ rest = (ys.map write).flatten ++ rest') :
    xs = ys ∧ rest = rest' := by
  induction xs generalizing ys with
  | nil =>
      have hNil : ys = [] := List.length_eq_zero_iff.mp hLength.symm
      subst hNil
      exact ⟨rfl, h⟩
  | cons x xs ih =>
      obtain ⟨y, ys, rfl⟩ := List.exists_cons_of_length_eq_add_one hLength.symm
      simp only [List.map_cons, List.flatten_cons, List.append_assoc] at h
      have hFirst := hWrite h
      have hMore := ih (Nat.succ.inj hLength) hFirst.2
      exact ⟨List.cons_eq_cons.mpr ⟨hFirst.1, hMore.1⟩, hMore.2⟩

theorem Delimited.counted {α : Type} {write : α → Bytes} (hWrite : Delimited write) :
    Delimited fun xs : List α => counted (xs.map write) := by
  intro xs ys rest rest' h
  simp only [Canister.counted, List.length_map, List.append_assoc] at h
  have hLength := delimited_encode h
  exact hWrite.flatten hLength.1 hLength.2

namespace Request

/-- The common values show all of a request but its certificate version. -/
theorem delimited_commonValues {first second : Request} {rest rest' : Bytes}
    (h : first.commonValues ++ rest = second.commonValues ++ rest') :
    first.forUpdate = second.forUpdate ∧ rest = rest' := by
  simp only [commonValues, List.append_assoc] at h
  have hUrl := delimited_text h
  have hMethod := delimited_text hUrl.2
  have hBody := delimited_countedContent hMethod.2
  have hHeaders := delimited_header.counted hBody.2
  refine ⟨?_, hHeaders.2⟩
  simp only [forUpdate, mk.injEq]
  exact ⟨hUrl.1, hMethod.1, hBody.1, hHeaders.1, trivial⟩

theorem versionValue_injective {first second : Option UInt16}
    (h : versionValue first = versionValue second) : first = second := by
  have hRead : Reads (Candid.value queryTable 2 (.entry 4)) (versionValue first) _ := reads_version
  have hShown : shownVersion first = shownVersion second :=
    (hRead.cancel reads_version (congrArg (· ++ []) h)).1
  match first, second, hShown with
  | none, none, _ => rfl
  | some first, some second, hShown =>
      have hNumber : first.toNat = second.toNat := by simpa [shownVersion] using hShown
      rw [UInt16.toNat_inj.mp hNumber]

/-- Requests with the same argument for the query method are the same. -/
theorem queryArgument_injective {first second : Request}
    (h : first.queryArgument = second.queryArgument) : first = second := by
  rw [queryArgument, queryArgument, List.append_assoc, List.append_assoc] at h
  have hValues := delimited_commonValues (List.append_cancel_left h)
  have hVersion := versionValue_injective hValues.2
  calc first = { first.forUpdate with certificateVersion? := first.certificateVersion? } := rfl
    _ = { second.forUpdate with certificateVersion? := second.certificateVersion? } := by
        rw [hValues.1, hVersion]
    _ = second := rfl

/-- Requests have the same argument for the update method if they differ in nothing but their
certificate versions. -/
theorem updateArgument_eq_iff {first second : Request} :
    first.updateArgument = second.updateArgument ↔ first.forUpdate = second.forUpdate := by
  constructor
  · intro h
    have hValues := List.append_cancel_left h
    exact (delimited_commonValues (congrArg (· ++ []) hValues)).1
  · intro h
    rw [← argument_ofForUpdate first, h, argument_ofForUpdate]

end Request

end CanisterGateway.Canister
