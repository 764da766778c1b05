import Mathlib.Data.List.Forall2
import CanisterGateway.Candid.Wire
import CanisterGateway.Proofs.Encoding

/-!
# Messages that are read back

A reader reads a thing from its written form if it takes exactly that off the front, whatever
follows. Written forms that are put together from parts are then read part by part, in the order in
which the readers are put together, up to a whole message. The bytes in front of a part do not
matter, and neither does the depth that is left for it, as long as there is enough.

Lengths are numbers of sixty-four bits, so what is longer than such a number is not read back.

## Main results

* `Reads.exactly`, `Reads.inOrder_cons` — repetitions and sequences.
* `reads_number`, `reads_text`, `reads_typeRef_entry`, `reads_fields` — the parts of messages.
* `reads_record`, `reads_vec`, `reads_blob`, `reads_some` — values, one level at a time.
* `ofBytes_of_reads` — whole messages.
-/

namespace CanisterGateway.Bytes

/-! ## Readers -/

/-- The reader takes exactly these bytes off the front for this thing. -/
def Reads {α : Type} (read : Reader α) (front : Bytes) (x : α) : Prop :=
  ∀ rest, read (front ++ rest) = some (x, rest)

section

variable {α : Type} {read : Reader α}

/-- What is read of two written forms is the same where they are. -/
theorem Reads.cancel {front front' : Bytes} {x x' : α} (h : Reads read front x)
    (h' : Reads read front' x') {rest rest' : Bytes} (hSame : front ++ rest = front' ++ rest') :
    x = x' ∧ rest = rest' := by
  have hPair : some (x, rest) = some (x', rest') := by
    rw [← h rest, hSame, h' rest']
  exact Prod.mk.inj (Option.some.inj hPair)

theorem reads_decode? (n : Nat) : Reads Leb128.decode? (Leb128.encode n) n :=
  Leb128.decode?_encode n

/-- As many things as there are written forms are read from them. -/
theorem Reads.exactly {fronts : List Bytes} {xs : List α}
    (h : List.Forall₂ (Reads read) fronts xs) :
    Reads (exactly read fronts.length) fronts.flatten xs := by
  induction h with
  | nil =>
      intro rest
      rfl
  | cons hFirst hMore ih =>
      intro rest
      rw [List.flatten_cons, List.append_assoc, List.length_cons, Bytes.exactly, hFirst]
      simp only [Option.bind_eq_bind, Option.bind_some, ih rest]

theorem Reads.inOrder_nil : Reads (inOrder ([] : List (Reader α))) [] [] :=
  fun _ => rfl

theorem Reads.inOrder_cons {more : List (Reader α)} {front fronts : Bytes} {x : α} {xs : List α}
    (hFirst : Reads read front x) (hMore : Reads (inOrder more) fronts xs) :
    Reads (inOrder (read :: more)) (front ++ fronts) (x :: xs) := by
  intro rest
  rw [List.append_assoc, inOrder, hFirst]
  simp only [Option.bind_eq_bind, Option.bind_some, hMore rest]

end

/-- A number takes as many bytes as it has digits of seven bits. -/
theorem length_encode_le {n width : Nat} (hWidth : 0 < width) (h : n < 128 ^ width) :
    (Leb128.encode n).length ≤ width := by
  induction width generalizing n with
  | zero => omega
  | succ width ih =>
      rw [Leb128.encode]
      split
      case isTrue => simp
      case isFalse hLarge =>
        have hRest : n / 128 < 128 ^ width := by
          apply Nat.div_lt_of_lt_mul
          rwa [Nat.pow_succ, Nat.mul_comm] at h
        have hMore : 0 < width := by
          by_contra hZero
          have : width = 0 := by omega
          subst this
          omega
        have hTail := ih hMore hRest
        rw [List.length_cons]
        omega

end CanisterGateway.Bytes

namespace CanisterGateway.Candid

open Bytes (Reader Reads takeBytes inOrder)

/-! ## Numbers and texts -/

theorem reads_number {n : Nat} (h : n < UInt64.size) : Reads number (Bytes.Leb128.encode n) n := by
  intro rest
  have hLength : (Bytes.Leb128.encode n).length ≤ maxNumberWidth := by
    apply Bytes.length_encode_le (by decide)
    exact Nat.lt_trans h (by decide)
  have hWidth : (Bytes.Leb128.encode n ++ rest).length - rest.length ≤ maxNumberWidth := by
    rw [List.length_append, Nat.add_sub_cancel]
    exact hLength
  rw [number, Bytes.Leb128.decode?_encode]
  exact if_pos ⟨h, hWidth⟩

theorem reads_countedBytes {content : Bytes} (h : content.length < UInt64.size) :
    Reads countedBytes (Bytes.Leb128.encode content.length ++ content) content := by
  intro rest
  rw [List.append_assoc, countedBytes, reads_number h]
  exact Bytes.takeBytes_append content rest

theorem reads_text {characters : String} (h : (Bytes.ofText characters).length < UInt64.size) :
    Reads text (Bytes.Leb128.encode (Bytes.ofText characters).length ++ Bytes.ofText characters)
      characters := by
  intro rest
  have hRead : Bytes.Utf8.decode? (Bytes.ofText characters) = some characters :=
    Bytes.Utf8.decode?_eq_some_iff.mpr rfl
  rw [text, reads_countedBytes h]
  simp only [Option.bind_eq_bind, Option.bind_some, hRead]

theorem reads_counted {α : Type} {read : Reader α} {fronts : List Bytes} {xs : List α}
    (h : List.Forall₂ (Reads read) fronts xs) (hLength : fronts.length < UInt64.size) :
    Reads (counted read) (Bytes.Leb128.encode fronts.length ++ fronts.flatten) xs := by
  intro rest
  rw [List.append_assoc, counted, reads_number hLength]
  exact Reads.exactly h rest

/-! ## Types -/

/-- One byte is read as a signed number of seven bits. -/
theorem reads_signedNumber {b : UInt8} (h : b < 128) :
    Reads signedNumber [b] (if b < 64 then (b.toNat : Int) else (b.toNat : Int) - 128) := by
  intro rest
  have hByte : b.toNat < 128 := UInt8.lt_iff_toNat_lt.mp h
  have hDecode : Bytes.Leb128.decodeSigned? (b :: rest) =
      some (if b < 64 then (b.toNat : Int) else (b.toNat : Int) - 128, rest) := by
    rw [Bytes.Leb128.decodeSigned?]
    simp only [if_pos h]
    split <;> rfl
  have hWidth : (b :: rest).length - rest.length ≤ maxNumberWidth := by
    rw [List.length_cons, Nat.add_sub_cancel_left]
    decide
  have hRange : Int64.minValue.toInt ≤ (if b < 64 then (b.toNat : Int) else (b.toNat : Int) - 128) ∧
      (if b < 64 then (b.toNat : Int) else (b.toNat : Int) - 128) ≤ Int64.maxValue.toInt := by
    have hLeast : Int64.minValue.toInt = -9223372036854775808 := by decide
    have hGreatest : Int64.maxValue.toInt = 9223372036854775807 := by decide
    rw [hLeast, hGreatest]
    split <;> omega
  rw [List.singleton_append, signedNumber, hDecode]
  exact if_pos ⟨hRange.1, hRange.2, hWidth⟩

theorem reads_typeRef_entry {b : UInt8} (h : b < 64) : Reads typeRef [b] (.entry b.toNat) := by
  intro rest
  have hSmall : b < 128 := UInt8.lt_trans h (by decide)
  have hEntry : (b.toNat : Int) ≥ 0 := Int.natCast_nonneg _
  rw [typeRef, reads_signedNumber hSmall, if_pos h]
  simp only [Option.bind_eq_bind, Option.bind_some, if_pos hEntry, Int.toNat_natCast]

theorem reads_typeRef_primitive {b : UInt8} {p : Primitive} (hLow : ¬ b < 64) (hHigh : b < 128)
    (hPrimitive : primitive? ((b.toNat : Int) - 128) = some p) :
    Reads typeRef [b] (.primitive p) := by
  intro rest
  have hByte : b.toNat < 128 := UInt8.lt_iff_toNat_lt.mp hHigh
  have hNegative : ¬ (b.toNat : Int) - 128 ≥ 0 := by omega
  rw [typeRef, reads_signedNumber hHigh, if_neg hLow]
  simp only [Option.bind_eq_bind, Option.bind_some, if_neg hNegative, hPrimitive, Option.map_some]

/-- A field of a type: the number of its name, and a reference to its type. -/
def WritesField (front : Bytes) (field : Nat × TypeRef) : Prop :=
  field.1 < UInt32.size ∧ ∃ type, front = Bytes.Leb128.encode field.1 ++ type ∧
    Reads typeRef type field.2

theorem reads_fields {fronts : List Bytes} {entries : List (Nat × TypeRef)}
    (h : List.Forall₂ WritesField fronts entries) (hLength : fronts.length < UInt64.size) :
    Reads fields (Bytes.Leb128.encode fronts.length ++ fronts.flatten) entries := by
  refine reads_counted (h.imp ?_) hLength
  intro front field ⟨hSmall, type, hFront, hType⟩ rest
  have hNumber : field.1 < UInt64.size := Nat.lt_trans hSmall (by decide)
  rw [hFront, List.append_assoc]
  simp only [reads_number hNumber _, Option.bind_eq_bind, Option.bind_some, hType rest,
    if_pos hSmall]

theorem reads_typeEntry_record {front : Bytes} {entries : List (Nat × TypeRef)}
    (h : Reads fields front entries) : Reads typeEntry (0x6C :: front) (.record entries) := by
  intro rest
  rw [List.cons_append, typeEntry, if_neg (by decide), if_neg (by decide), if_pos rfl, h]
  rfl

theorem reads_typeEntry_vec {front : Bytes} {element : TypeRef} (h : Reads typeRef front element) :
    Reads typeEntry (0x6D :: front) (.vec element) := by
  intro rest
  rw [List.cons_append, typeEntry, if_neg (by decide), if_pos rfl, h]
  rfl

theorem reads_typeEntry_opt {front : Bytes} {content : TypeRef} (h : Reads typeRef front content) :
    Reads typeEntry (0x6E :: front) (.opt content) := by
  intro rest
  rw [List.cons_append, typeEntry, if_pos rfl, h]
  rfl

/-- A sound table and references into it. -/
theorem reads_typeSection {fronts references : List Bytes} {table : TypeTable}
    {types : List TypeRef} (hEntries : List.Forall₂ (Reads typeEntry) fronts table)
    (hTypes : List.Forall₂ (Reads typeRef) references types)
    (hEntriesLength : fronts.length < UInt64.size) (hTypesLength : references.length < UInt64.size)
    (hSound : (TypeTable.sound table && types.all (TypeTable.refers table)) = true) :
    Reads typeSection
      (magic ++ (Bytes.Leb128.encode fronts.length ++ fronts.flatten)
        ++ (Bytes.Leb128.encode references.length ++ references.flatten)) (table, types) := by
  intro rest
  have hTable := reads_counted hEntries hEntriesLength
  have hArguments := reads_counted hTypes hTypesLength
  rw [List.append_assoc, List.append_assoc, typeSection, Bytes.takeBytes_append magic]
  simp only [Option.bind_eq_bind, Option.bind_some, ne_eq, not_true_eq_false, if_false,
    hTable _, hArguments rest, if_pos hSound]

/-! ## Values -/

section

variable {table : TypeTable} {depth : Nat}

theorem reads_textValue {characters : String} (h : (Bytes.ofText characters).length < UInt64.size) :
    Reads (value table (depth + 1) (.primitive .text))
      (Bytes.Leb128.encode (Bytes.ofText characters).length ++ Bytes.ofText characters)
      (.text characters) := by
  intro rest
  simp only [value, primitiveValue, reads_text h rest, Option.map_some]

theorem reads_nat16 {n : Nat} (h : n < UInt16.size) :
    Reads (value table (depth + 1) (.primitive (.fixed .nat16))) (Bytes.ofNatLE 2 n)
      (.fixed .nat16 n) := by
  intro rest
  have hTake : takeBytes IntKind.nat16.width (Bytes.ofNatLE 2 n ++ rest) =
      some (Bytes.ofNatLE 2 n, rest) := Bytes.takeBytes_append (Bytes.ofNatLE 2 n) rest
  have hNumber : IntKind.nat16.ofBytes (Bytes.ofNatLE 2 n) = n := by
    have hSize : n < 65536 := h
    simp [IntKind.ofBytes, IntKind.signed, Bytes.ofNatLE, Bytes.toNatLE]
    omega
  simp only [value, primitiveValue, hTake, Option.map_some, hNumber]

theorem reads_blob {index : Nat} {content : Bytes}
    (hEntry : table[index]? = some (.vec (.primitive (.fixed .nat8))))
    (h : content.length < UInt64.size) :
    Reads (value table (depth + 1) (.entry index))
      (Bytes.Leb128.encode content.length ++ content) (.blob content) := by
  intro rest
  simp only [value, hEntry, if_true, reads_countedBytes h rest, Option.map_some]

theorem reads_vec {index : Nat} {element : TypeRef} {fronts : List Bytes} {items : List Value}
    (hEntry : table[index]? = some (.vec element)) (hElement : element ≠ .primitive (.fixed .nat8))
    (h : List.Forall₂ (Reads (value table depth element)) fronts items)
    (hLength : fronts.length < UInt64.size) :
    Reads (value table (depth + 1) (.entry index))
      (Bytes.Leb128.encode fronts.length ++ fronts.flatten) (.vec items) := by
  intro rest
  simp only [value, hEntry, if_neg hElement, reads_counted h hLength rest, Option.map_some]

theorem reads_record {index : Nat} {entries : List (Nat × TypeRef)} {front : Bytes}
    {values : List Value} (hEntry : table[index]? = some (.record entries))
    (h : Reads (inOrder (entries.map fun entry => value table depth entry.2)) front values) :
    Reads (value table (depth + 1) (.entry index)) front
      (.record ((entries.map fun entry => Label.id entry.1).zip values)) := by
  intro rest
  simp only [value, hEntry, h rest, Option.map_some]

theorem reads_none {index : Nat} {content : TypeRef}
    (hEntry : table[index]? = some (.opt content)) :
    Reads (value table (depth + 1) (.entry index)) [0] .none := by
  intro rest
  simp only [value, hEntry]
  rfl

theorem reads_some {index : Nat} {content : TypeRef} {front : Bytes} {inner : Value}
    (hEntry : table[index]? = some (.opt content))
    (h : Reads (value table depth content) front inner) :
    Reads (value table (depth + 1) (.entry index)) (1 :: front) (.opt inner) := by
  intro rest
  have hPresent : boolean (1 :: front ++ rest) = some (true, front ++ rest) := rfl
  simp only [value, hEntry, hPresent, Option.bind_eq_bind, Option.bind_some, if_true, h rest,
    Option.map_some]

end

/-! ## Messages -/

/-- A message of one argument that can be read at any depth from `least` on. -/
theorem ofBytes_of_reads {types content : Bytes} {table : TypeTable} {type : TypeRef}
    {argument : Value} {least : Nat} (hTypes : Reads typeSection types (table, [type]))
    (hArgument : ∀ more, Reads (value table (least + more) type) content argument)
    (hDepth : least ≤ table.length + 2) :
    Message.ofBytes (types ++ content) = .ok ⟨table, type, argument⟩ := by
  have hEnough : least ≤ (content.length + 1) * (table.length + 2) :=
    Nat.le_trans hDepth (Nat.le_mul_of_pos_left _ (Nat.succ_pos _))
  obtain ⟨more, hMore⟩ := Nat.exists_eq_add_of_le hEnough
  have hContent : inOrder [value table (least + more) type] content = some ([argument], []) := by
    have hReads := Bytes.Reads.inOrder_cons (hArgument more) Bytes.Reads.inOrder_nil
    have hRead := hReads []
    rwa [List.append_nil, List.append_nil] at hRead
  rw [Message.ofBytes, hTypes content]
  simp only [hMore, List.map_cons, List.map_nil, hContent]

end CanisterGateway.Candid
