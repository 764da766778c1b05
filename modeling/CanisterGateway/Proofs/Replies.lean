import Mathlib.Data.List.Forall2
import CanisterGateway.Canister.Interface

/-!
# What a reply says

A reply is read as a message first, and the message then shows a response or not. What it shows is
said here without reading: the status, the headers one after another in their order, the body, the
upgrade flag, where nothing differs from a flag that is not set, and the streaming strategy, which
is there exactly if the reply carries a callback. The token is the value that the reply has in its
place, whatever that is.

A status is a number that was read from two bytes, so it is known exactly.

## Main results

* `level_of_value` — what is known of each level of a value that was read.
* `Message.exists_nat16` — a number of sixteen bits in a field of a message is one.
* `ofBytes_ok_iff` — the response of a reply is the one that the reply's message shows.
-/

namespace CanisterGateway.Bytes

/-- What readers yield one after another was yielded by one of them. -/
theorem mem_of_inOrder {α : Type} {readers : List (Reader α)} {bytes rest : Bytes} {xs : List α}
    (h : inOrder readers bytes = some (xs, rest)) {x : α} (hx : x ∈ xs) :
    ∃ read ∈ readers, ∃ front back, read front = some (x, back) := by
  induction readers generalizing bytes rest xs with
  | nil =>
      have hNone : xs = [] := by
        simp only [inOrder, Option.some.injEq, Prod.mk.injEq] at h
        exact h.1.symm
      rw [hNone] at hx
      exact absurd hx List.not_mem_nil
  | cons read more ih =>
      simp only [inOrder, Option.bind_eq_bind, Option.bind_eq_some_iff, Option.some.injEq,
        Prod.mk.injEq, Prod.exists] at h
      obtain ⟨first, middle, hFirst, others, _, hMore, hList, _⟩ := h
      rw [← hList] at hx
      by_cases hHere : x = first
      · exact ⟨read, List.mem_cons_self, bytes, middle, hHere ▸ hFirst⟩
      · have hLater := ih hMore (List.mem_of_ne_of_mem hHere hx)
        obtain ⟨later, hMem, hRead⟩ := hLater
        exact ⟨later, List.mem_cons_of_mem _ hMem, hRead⟩

/-- What a reader yields when it is run a number of times was yielded by it. -/
theorem mem_of_exactly {α : Type} {read : Reader α} {count : Nat} {bytes rest : Bytes} {xs : List α}
    (h : exactly read count bytes = some (xs, rest)) {x : α} (hx : x ∈ xs) :
    ∃ front back, read front = some (x, back) := by
  have hSame : exactly read count = inOrder (List.replicate count read) := by
    clear h
    induction count with
    | zero => rfl
    | succ count ih =>
        funext bytes
        rw [List.replicate_succ, exactly, inOrder, ih]
  rw [hSame] at h
  obtain ⟨read', hMem, hRead⟩ := mem_of_inOrder h hx
  rwa [List.eq_of_mem_replicate hMem] at hRead

end CanisterGateway.Bytes

namespace CanisterGateway.Candid

/-! ## Values that were read -/

/-- The values that a value is put together from. -/
def Value.parts : Value → List Value
  | .opt value => [value]
  | .vec items => items
  | .record fields => fields.map (·.2)
  | .variant _ value => [value]
  | _ => []

/-- Something was read as this value. -/
def Value.Read (table : TypeTable) (v : Value) : Prop :=
  ∃ depth type bytes rest, value table depth type bytes = some (v, rest)

/-- The number is written in as many bytes as its kind has. -/
def IntKind.Holds (kind : IntKind) (n : Int) : Prop :=
  ∃ content : Bytes, content.length = kind.width ∧ n = kind.ofBytes content

section

variable {table : TypeTable} {v : Value} {bytes rest : Bytes}

theorem length_of_takeBytes {count : Nat} {content : Bytes}
    (h : Bytes.takeBytes count bytes = some (content, rest)) : content.length = count := by
  unfold Bytes.takeBytes at h
  split at h
  · contradiction
  · simp only [Option.some.injEq, Prod.mk.injEq] at h
    rw [← h.1, List.length_take]
    omega

/-- What is known of one level of a value that was read. -/
structure Value.Level (table : TypeTable) (v : Value) : Prop where
  number : ∀ kind n, v = .fixed kind n → kind.Holds n
  parts : ∀ part ∈ v.parts, part.Read table

theorem Value.Level.of_leaf (hNumber : ∀ kind n, v ≠ .fixed kind n) (hParts : v.parts = []) :
    v.Level table where
  number kind n hSame := absurd hSame (hNumber kind n)
  parts part hPart := by
    rw [hParts] at hPart
    exact absurd hPart List.not_mem_nil

/-- A value that is made of something that was read. -/
theorem Value.Level.of_map {α : Type} {read : Option (α × Bytes)} {make : α × Bytes → Value × Bytes}
    (h : read.map make = some (v, rest))
    (hMake : ∀ x after, read = some (x, after) → (make (x, after)).1.Level table) :
    v.Level table := by
  obtain ⟨⟨x, after⟩, hRead, hPair⟩ := Option.map_eq_some_iff.mp h
  have hLevel := hMake x after hRead
  rwa [hPair] at hLevel

theorem level_of_primitiveValue {p : Primitive} (h : primitiveValue p bytes = some (v, rest)) :
    v.Level table := by
  cases p with
  | fixed kind =>
      refine .of_map h fun content after hTake => ⟨?_, nofun⟩
      intro kind' n hSame
      injection hSame with hKind hNumber
      rw [← hKind, ← hNumber]
      exact ⟨content, length_of_takeBytes hTake, rfl⟩
  | empty => contradiction
  | null | reserved =>
      have hSame := Prod.mk.inj (Option.some.inj h)
      exact hSame.1 ▸ .of_leaf nofun rfl
  | _ => exact .of_map h fun _ _ _ => .of_leaf nofun rfl

/-- A value of one other value. -/
theorem Value.Level.of_inner {inner : Value} (hNumber : ∀ kind n, v ≠ .fixed kind n)
    (hParts : v.parts = [inner]) (hInner : inner.Read table) : v.Level table where
  number kind n hSame := absurd hSame (hNumber kind n)
  parts part hPart := by
    rw [hParts, List.mem_singleton] at hPart
    exact hPart ▸ hInner

theorem level_of_opt {depth : Nat} {content : TypeRef}
    (h : (do
      let (present, bytes) ← boolean bytes
      if present then
        (value table depth content bytes).map fun (v, rest) => (.opt v, rest)
      else some (.none, bytes)) = some (v, rest)) : v.Level table := by
  simp only [Option.bind_eq_bind, Option.bind_eq_some_iff, Prod.exists] at h
  obtain ⟨present, middle, _, h⟩ := h
  split at h
  case isTrue =>
    exact .of_map h fun inner after hInner =>
      .of_inner nofun rfl ⟨depth, content, middle, after, hInner⟩
  case isFalse =>
    have hSame := Prod.mk.inj (Option.some.inj h)
    exact hSame.1 ▸ .of_leaf nofun rfl

theorem level_of_function (h : function bytes = some (v, rest)) : v.Level table := by
  unfold function at h
  split at h
  · simp only [Option.bind_eq_bind, Option.bind_eq_some_iff, Option.some.injEq, Prod.mk.injEq,
      Prod.exists] at h
    obtain ⟨_, _, _, _, _, _, hValue, _⟩ := h
    exact hValue ▸ .of_leaf nofun rfl
  · contradiction

theorem level_of_futureValue (h : futureValue bytes = some (v, rest)) : v.Level table := by
  simp only [futureValue, Option.bind_eq_bind, Option.bind_eq_some_iff,
    Option.ite_none_right_eq_some, Option.some.injEq, Prod.mk.injEq, Prod.exists] at h
  obtain ⟨_, _, _, _, _, _, _, _, _, _, hValue, _⟩ := h
  exact hValue ▸ .of_leaf nofun rfl

theorem level_of_value {depth : Nat} {type : TypeRef}
    (h : value table depth type bytes = some (v, rest)) : v.Level table := by
  match depth, type with
  | depth + 1, .primitive p => exact level_of_primitiveValue h
  | depth + 1, .entry index =>
      simp only [value] at h
      split at h
      case h_1 => contradiction
      case h_2 content _ => exact level_of_opt h
      case h_3 element _ =>
        split at h
        case isTrue => exact .of_map h fun _ _ _ => .of_leaf nofun rfl
        case isFalse =>
          refine .of_map h fun items _ hItems => ⟨nofun, fun part hPart => ?_⟩
          simp only [counted, Option.bind_eq_bind, Option.bind_eq_some_iff, Prod.exists] at hItems
          obtain ⟨count, middle, _, hItems⟩ := hItems
          obtain ⟨front, back, hRead⟩ := Bytes.mem_of_exactly hItems hPart
          exact ⟨depth, element, front, back, hRead⟩
      case h_4 fields _ =>
        refine .of_map h fun values _ hValues => ⟨nofun, fun part hPart => ?_⟩
        obtain ⟨field, hField, rfl⟩ := List.mem_map.mp hPart
        obtain ⟨read, hMem, front, back, hRead⟩ :=
          Bytes.mem_of_inOrder hValues (List.of_mem_zip hField).2
        obtain ⟨entry, _, rfl⟩ := List.mem_map.mp hMem
        exact ⟨depth, entry.2, front, back, hRead⟩
      case h_5 fields _ =>
        simp only [Option.bind_eq_bind, Option.bind_eq_some_iff, Prod.exists] at h
        obtain ⟨tag, middle, _, id, type, _, h⟩ := h
        exact .of_map h fun inner after hInner =>
          .of_inner nofun rfl ⟨depth, type, middle, after, hInner⟩
      case h_6 => exact level_of_function h
      case h_7 => exact .of_map h fun _ _ _ => .of_leaf nofun rfl
      case h_8 => exact level_of_futureValue h

theorem Value.Read.level (h : v.Read table) : v.Level table := by
  obtain ⟨depth, type, bytes, rest, hRead⟩ := h
  exact level_of_value hRead

/-- The fields of what was read were read themselves. -/
theorem Value.Read.field {part : Value} {name : String} (h : v.Read table)
    (hField : v.field? name = some part) : part.Read table := by
  unfold Value.field? at hField
  split at hField
  case h_1 fields =>
    obtain ⟨field, hFind, hPart⟩ := Option.map_eq_some_iff.mp hField
    have hMem : part ∈ (Value.record fields).parts :=
      List.mem_map.mpr ⟨field, List.mem_of_find?_eq_some hFind, hPart⟩
    exact h.level.parts part hMem
  case h_2 => contradiction

theorem Message.read {message : Message} (h : Message.ofBytes bytes = .ok message) :
    message.argument.Read message.table := by
  unfold Message.ofBytes at h
  split at h
  · contradiction
  case h_2 table types content hTypes =>
    simp only at h
    split at h
    all_goals try contradiction
    case h_2 argument _ type _ hValues =>
      have hMessage := Except.ok.inj h
      obtain ⟨read, hMem, front, back, hRead⟩ := Bytes.mem_of_inOrder hValues List.mem_cons_self
      obtain ⟨type', _, rfl⟩ := List.mem_map.mp hMem
      rw [← hMessage]
      exact ⟨_, type', front, back, hRead⟩

theorem IntKind.Holds.nat16 {n : Int} (h : IntKind.nat16.Holds n) :
    ∃ number : UInt16, n = number.toNat := by
  obtain ⟨content, hLength, hNumber⟩ := h
  obtain ⟨low, high, rfl⟩ := List.length_eq_two.mp hLength
  have hLow := low.toNat_lt
  have hHigh := high.toNat_lt
  have hSum : n = (low.toNat + 256 * high.toNat : Nat) := by
    rw [hNumber]
    simp [IntKind.ofBytes, IntKind.signed, Bytes.toNatLE]
  refine ⟨UInt16.ofNat (low.toNat + 256 * high.toNat), ?_⟩
  rw [hSum, UInt16.toNat_ofNat', Nat.mod_eq_of_lt (by omega)]

/-- A number of sixteen bits in a field of a message is one. -/
theorem Message.exists_nat16 {message : Message} (h : Message.ofBytes bytes = .ok message)
    {name : String} {n : Int} (hField : message.argument.field? name = some (.fixed .nat16 n)) :
    ∃ number : UInt16, n = number.toNat :=
  (((Message.read h).field hField).level.number .nat16 n rfl).nat16

end

end CanisterGateway.Candid

namespace CanisterGateway.Canister

open Candid (Value fieldId)

/-! ## Responses as messages show them -/

/-- The value shows the header: a tuple of its two texts, whatever follows them. -/
def Header.ShownBy (header : Header) (value : Value) : Prop :=
  ∃ rest : List (Candid.Label × Value),
    value = .record ((.id 0, .text header.1) :: (.id 1, .text header.2) :: rest) ∧
      rest.map (·.1) = (List.range' 2 rest.length).map Candid.Label.id

/-- The value shows the headers in their order. A list of nothing may be written as no bytes. -/
def HeadersShownBy (headers : List Header) (value : Value) : Prop :=
  (∃ items, value = .vec items ∧ List.Forall₂ Header.ShownBy headers items) ∨
    (value = .blob [] ∧ headers = [])

/-- The message carries the callback of a strategy, of a type that can be called, with the token as
it stands there. -/
structure Streaming.CarriedBy (strategy : Streaming) (message : Candid.Message) : Prop where
  callable : ∃ type, callbackType? message.table message.type = some type ∧
    isCallbackType message.table type = true
  shown : ∃ value callback, message.argument.field? "streaming_strategy" = some value ∧
    value.content? = some (.variant (.id (fieldId "Callback")) callback) ∧
    callback.field? "callback" = some (.func strategy.canister strategy.method) ∧
    strategy.token = (callback.field? "token").getD .null

/-- The message shows the response. -/
structure Response.ShownBy (response : Response) (message : Candid.Message) : Prop where
  status : message.argument.field? "status_code" =
    some (.fixed .nat16 response.statusCode.toNat)
  headers : ∃ value, message.argument.field? "headers" = some value ∧
    HeadersShownBy response.headers value
  body : message.argument.field? "body" = some (.blob response.body)
  upgrade : ∀ flag, response.upgrade? = some flag ↔
    ∃ value, message.argument.field? "upgrade" = some value ∧ value.content? = some (.bool flag)
  streaming : ∀ strategy, response.streaming? = some strategy ↔ strategy.CarriedBy message

theorem header?_eq_some_iff {header : Header} {value : Value} :
    header? value = some header ↔ header.ShownBy value := by
  constructor
  · intro h
    unfold header? at h
    split at h
    case h_1 name text rest =>
      split at h
      case isTrue hLabels =>
        rw [← Option.some.inj h]
        exact ⟨rest, rfl, hLabels⟩
      case isFalse => contradiction
    case h_2 => contradiction
  · intro h
    obtain ⟨rest, hValue, hLabels⟩ := h
    rw [hValue]
    exact if_pos hLabels

theorem mapM_header?_eq_some_iff {headers : List Header} {items : List Value} :
    items.mapM header? = some headers ↔ List.Forall₂ Header.ShownBy headers items := by
  induction items generalizing headers with
  | nil => simp [eq_comm]
  | cons item items ih =>
      rw [List.forall₂_cons_right_iff]
      simp only [List.mapM_cons, Option.bind_eq_bind, Option.bind_eq_some_iff, Option.pure_def,
        Option.some.injEq, header?_eq_some_iff, ih]
      constructor
      · intro h
        obtain ⟨header, hHeader, more, hMore, hList⟩ := h
        exact ⟨header, more, hHeader, hMore, hList.symm⟩
      · intro h
        obtain ⟨header, more, hHeader, hMore, hList⟩ := h
        exact ⟨header, hHeader, more, hMore, hList.symm⟩

theorem headers?_eq_some_iff {headers : List Header} {value : Value} :
    headers? value = some headers ↔ HeadersShownBy headers value := by
  unfold HeadersShownBy
  constructor
  · intro h
    unfold headers? at h
    split at h
    case h_1 items => exact Or.inl ⟨items, rfl, mapM_header?_eq_some_iff.mp h⟩
    case h_2 => exact Or.inr ⟨rfl, (Option.some.inj h).symm⟩
    case h_3 => contradiction
  · intro h
    obtain ⟨items, rfl, hItems⟩ | ⟨rfl, rfl⟩ := h
    · exact mapM_header?_eq_some_iff.mpr hItems
    · rfl

theorem streaming?_eq_some_iff {strategy : Streaming} {value : Value} :
    streaming? value = some strategy ↔ ∃ callback,
      value = .variant (.id (fieldId "Callback")) callback ∧
      callback.field? "callback" = some (.func strategy.canister strategy.method) ∧
      strategy.token = (callback.field? "token").getD .null := by
  constructor
  · intro h
    unfold streaming? at h
    split at h
    case h_1 tag callback =>
      split at h
      case isTrue hTag =>
        split at h
        case h_1 canister method hCallback =>
          rw [← Option.some.inj h]
          exact ⟨callback, by rw [hTag], hCallback, rfl⟩
        case h_2 => contradiction
      case isFalse => contradiction
    case h_2 => contradiction
  · intro h
    obtain ⟨callback, hValue, hCallback, hToken⟩ := h
    rw [hValue]
    simp only [streaming?, if_true, hCallback, ← hToken]

theorem streamingOf_eq_some_iff {strategy : Streaming} {message : Candid.Message} :
    streamingOf message = some strategy ↔ strategy.CarriedBy message := by
  unfold streamingOf
  simp only [Option.bind_eq_bind, Option.bind_eq_some_iff, Bool.not_eq_true']
  constructor
  · intro h
    obtain ⟨type, hType, h⟩ := h
    split at h
    case isTrue => contradiction
    case isFalse hCallable =>
      simp only [Option.bind_eq_some_iff] at h
      obtain ⟨value, hValue, content, hContent, hShown⟩ := h
      obtain ⟨callback, rfl, hCallback, hToken⟩ := streaming?_eq_some_iff.mp hShown
      rw [Bool.not_eq_false] at hCallable
      exact ⟨⟨type, hType, hCallable⟩, value, callback, hValue, hContent, hCallback, hToken⟩
  · intro h
    obtain ⟨type, hType, hCallable⟩ := h.callable
    obtain ⟨value, callback, hValue, hContent, hCallback⟩ := h.shown
    refine ⟨type, hType, ?_⟩
    simp only [hCallable, Bool.true_eq_false, if_false, hValue, hContent, Option.bind_some]
    exact streaming?_eq_some_iff.mpr ⟨callback, rfl, hCallback⟩

theorem status?_eq_some_iff {message : Candid.Message} {reply : Bytes}
    (hMessage : Candid.Message.ofBytes reply = .ok message) {code : UInt16} {name : String} :
    (∃ value, message.argument.field? name = some value ∧ status? value = some code) ↔
      message.argument.field? name = some (.fixed .nat16 code.toNat) := by
  constructor
  · intro h
    obtain ⟨value, hValue, hStatus⟩ := h
    unfold status? at hStatus
    split at hStatus
    case h_1 n =>
      obtain ⟨number, hNumber⟩ := Candid.Message.exists_nat16 hMessage hValue
      rw [hNumber, Int.toNat_natCast, UInt16.ofNat_toNat, Option.some.injEq] at hStatus
      rw [hValue, hNumber, hStatus]
    case h_2 => contradiction
  · intro h
    exact ⟨_, h, by simp [status?]⟩

theorem blob?_eq_some_iff {value : Value} {content : Bytes} :
    blob? value = some content ↔ value = .blob content := by
  cases value <;> simp [blob?]

theorem flag?_eq_some_iff {value : Value} {flag : Bool} :
    flag? value = some flag ↔ value = .bool flag := by
  cases value <;> simp [flag?]

/-- The upgrade flag that a message shows. Anything but a flag in its place counts as nothing. -/
def upgradeOf (message : Candid.Message) : Option Bool :=
  ((message.argument.field? "upgrade").bind Value.content?).bind flag?

theorem upgradeOf_eq_some_iff {message : Candid.Message} {flag : Bool} :
    upgradeOf message = some flag ↔ ∃ value, message.argument.field? "upgrade" = some value ∧
      value.content? = some (.bool flag) := by
  simp only [upgradeOf, Option.bind_eq_some_iff, flag?_eq_some_iff, exists_eq_right]

/-- A response is put together from five fields, of which the first three have to be there. -/
theorem ofMessage?_eq_some_iff {message : Candid.Message} {response : Response} :
    Response.ofMessage? message = some response ↔
      (∃ value, message.argument.field? "status_code" = some value ∧
        status? value = some response.statusCode) ∧
      (∃ value, message.argument.field? "headers" = some value ∧
        headers? value = some response.headers) ∧
      (∃ value, message.argument.field? "body" = some value ∧
        blob? value = some response.body) ∧
      response.upgrade? = upgradeOf message ∧ response.streaming? = streamingOf message := by
  simp only [Response.ofMessage?, upgradeOf, Option.bind_eq_bind, Option.bind_eq_some_iff,
    Option.some.injEq, Option.bind_assoc]
  constructor
  · intro h
    obtain ⟨status, hStatus, code, hCode, list, hList, headers, hHeaders, content, hContent, body,
      hBody, hResponse⟩ := h
    rw [← hResponse]
    exact ⟨⟨status, hStatus, hCode⟩, ⟨list, hList, hHeaders⟩, ⟨content, hContent, hBody⟩, rfl, rfl⟩
  · intro h
    obtain ⟨⟨status, hStatus, hCode⟩, ⟨list, hList, hHeaders⟩, ⟨content, hContent, hBody⟩, hUpgrade,
      hStreaming⟩ := h
    refine ⟨status, hStatus, _, hCode, list, hList, _, hHeaders, content, hContent, _, hBody, ?_⟩
    rw [← hUpgrade, ← hStreaming]

/-- What is made of a message that was read is the one response that it shows. -/
theorem ofMessage?_eq_some_iff_shownBy {message : Candid.Message} {reply : Bytes}
    (hMessage : Candid.Message.ofBytes reply = .ok message) {response : Response} :
    Response.ofMessage? message = some response ↔ response.ShownBy message := by
  rw [ofMessage?_eq_some_iff, status?_eq_some_iff hMessage]
  simp only [headers?_eq_some_iff, blob?_eq_some_iff, exists_eq_right]
  constructor
  · intro h
    obtain ⟨hStatus, hHeaders, hBody, hUpgrade, hStreaming⟩ := h
    refine ⟨hStatus, hHeaders, hBody, fun flag => ?_, fun strategy => ?_⟩
    · rw [hUpgrade, upgradeOf_eq_some_iff]
    · rw [hStreaming, streamingOf_eq_some_iff]
  · intro h
    refine ⟨h.status, h.headers, h.body, Option.ext fun flag => ?_,
      Option.ext fun strategy => ?_⟩
    · rw [h.upgrade flag, upgradeOf_eq_some_iff]
    · rw [h.streaming strategy, streamingOf_eq_some_iff]

/-- The response of a reply is the one that the reply's message shows. -/
theorem ofBytes_ok_iff {reply : Bytes} {response : Response} :
    Response.ofBytes reply = .ok response ↔
      ∃ message, Candid.Message.ofBytes reply = .ok message ∧ response.ShownBy message := by
  unfold Response.ofBytes
  cases hMessage : Candid.Message.ofBytes reply with
  | error fault => simp [Bind.bind, Except.bind]
  | ok message =>
      have hShown : Response.ofMessage? message = some response ↔ response.ShownBy message :=
        ofMessage?_eq_some_iff_shownBy hMessage
      cases hResponse : Response.ofMessage? message <;>
        simp [Bind.bind, Except.bind, Option.elim, hResponse, ← hShown]

end CanisterGateway.Canister
