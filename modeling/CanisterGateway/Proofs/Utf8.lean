import Mathlib.Tactic.IntervalCases
import CanisterGateway.Bytes.Utf8

/-!
# The UTF-8 form of a text and back

The well-formed sequences are told once, by the values of their bytes: how many there are, and
which second bytes the first one allows. They are what a scalar value is written as, and what a
piece that is a scalar value was read from. So reading undoes writing, and writing what was read
puts nothing into the bytes but replacement characters.

## Main results

* `Spelling.utf8EncodeChar`, `spelling_toNat` — the well-formed sequences are the encodings.
* `frontPiece_eq_scalar_iff` — a piece is a scalar value exactly if its encoding stands there.
* `decodeLossy_ofText` — reading undoes writing.
* `mem_ofText_decodeLossy` — the bytes of what was read, written again.
-/

namespace CanisterGateway.Bytes.Utf8

/-! ## Well-formed sequences -/

/-- A scalar value and the bytes that spell it. The bounds of a second byte rule out what could be
spelled with fewer bytes, the surrogates, and what is beyond the last scalar value. -/
inductive Spelling : Nat → Bytes → Prop
  | one {a : Nat} (ha : a < 128) : Spelling a [.ofNat a]
  | two {a b : Nat} (ha : 2 ≤ a ∧ a < 32) (hb : b < 64) :
    Spelling (a * 64 + b) [.ofNat (a + 192), .ofNat (b + 128)]
  | three {a b c : Nat} (ha : a < 16) (hb : b < 64) (hc : c < 64) (hLow : a = 0 → 32 ≤ b)
    (hHigh : a = 13 → b < 32) :
    Spelling ((a * 64 + b) * 64 + c) [.ofNat (a + 224), .ofNat (b + 128), .ofNat (c + 128)]
  | four {a b c d : Nat} (ha : a < 5) (hb : b < 64) (hc : c < 64) (hd : d < 64)
    (hLow : a = 0 → 16 ≤ b) (hHigh : a = 4 → b < 16) :
    Spelling (((a * 64 + b) * 64 + c) * 64 + d)
      [.ofNat (a + 240), .ofNat (b + 128), .ofNat (c + 128), .ofNat (d + 128)]

namespace Spelling

variable {value : Nat} {bytes : Bytes}

theorem isValidChar (h : Spelling value bytes) : value.isValidChar := by
  cases h with
  | one ha => exact .inl (by omega)
  | two ha hb => exact .inl (by omega)
  | @three a b c ha hb hc hLow hHigh =>
      by_cases hSide : a < 13 ∨ a = 13
      · exact .inl (by omega)
      · exact .inr (by omega)
  | four ha hb hc hd hLow hHigh => exact .inr (by omega)

theorem toNat_ofNat (h : Spelling value bytes) : (Char.ofNat value).toNat = value := by
  rw [Char.ofNat, dif_pos h.isValidChar]
  rfl

/-- What spells a scalar value is its encoding. -/
theorem utf8EncodeChar (h : Spelling value bytes) :
    String.utf8EncodeChar (Char.ofNat value) = bytes := by
  have hValue : (Char.ofNat value).val.toNat = value := h.toNat_ofNat
  simp only [String.utf8EncodeChar, hValue]
  cases h with
  | one ha => rw [if_pos (by omega)]
  | @two a b ha hb =>
      have hFirst : (a * 64 + b) / 64 % 32 = a := by omega
      have hSecond : (a * 64 + b) % 64 = b := by omega
      rw [if_neg (by omega), if_pos (by omega), hFirst, hSecond]
  | @three a b c ha hb hc hLow hHigh =>
      have hFirst : ((a * 64 + b) * 64 + c) / 4096 % 16 = a := by omega
      have hSecond : ((a * 64 + b) * 64 + c) / 64 % 64 = b := by omega
      have hThird : ((a * 64 + b) * 64 + c) % 64 = c := by omega
      rw [if_neg (by omega), if_neg (by omega), if_pos (by omega), hFirst, hSecond, hThird]
  | @four a b c d ha hb hc hd hLow hHigh =>
      have hFirst : (((a * 64 + b) * 64 + c) * 64 + d) / 262144 % 8 = a := by omega
      have hSecond : (((a * 64 + b) * 64 + c) * 64 + d) / 4096 % 64 = b := by omega
      have hThird : (((a * 64 + b) * 64 + c) * 64 + d) / 64 % 64 = c := by omega
      have hFourth : (((a * 64 + b) * 64 + c) * 64 + d) % 64 = d := by omega
      rw [if_neg (by omega), if_neg (by omega), if_neg (by omega), hFirst, hSecond, hThird,
        hFourth]

end Spelling

/-- Every scalar value is spelled by some bytes. -/
theorem exists_spelling {value : Nat} (h : value.isValidChar) : ∃ bytes, Spelling value bytes := by
  have hBound : value < 1114112 := by rcases h with h | h <;> omega
  by_cases hOne : value < 128
  · exact ⟨_, .one hOne⟩
  by_cases hTwo : value < 2048
  · have hSum : value = value / 64 * 64 + value % 64 := by omega
    rw [hSum]
    exact ⟨_, .two (by omega) (by omega)⟩
  by_cases hThree : value < 65536
  · have hSum : value = (value / 4096 * 64 + value / 64 % 64) * 64 + value % 64 := by omega
    have hSurrogate : value / 4096 = 13 → value / 64 % 64 < 32 := by
      intro hThirteen
      rcases h with h | h <;> omega
    rw [hSum]
    exact ⟨_, .three (by omega) (by omega) (by omega) (by omega) (by omega)⟩
  · have hSum : value = ((value / 262144 * 64 + value / 4096 % 64) * 64 + value / 64 % 64) * 64
        + value % 64 := by omega
    rw [hSum]
    exact ⟨_, .four (by omega) (by omega) (by omega) (by omega) (by omega) (by omega)⟩

/-- A character is spelled by its encoding. -/
theorem spelling_toNat (c : Char) : Spelling c.toNat (String.utf8EncodeChar c) := by
  obtain ⟨bytes, hBytes⟩ := exists_spelling c.valid
  have hEncode := hBytes.utf8EncodeChar
  rw [Char.toNat_val, Char.ofNat_toNat] at hEncode
  rw [hEncode]
  exact hBytes

/-! ## Lead bytes -/

theorem lead?_one {a : Nat} (ha : a < 128) : lead? (.ofNat a) = some ⟨a, 0, 0x80, 0xBF⟩ := by
  have hByte : (UInt8.ofNat a).toNat = a := UInt8.toNat_ofNat_of_lt (show a < 256 by omega)
  have hLess : UInt8.ofNat a < 0x80 := by
    rw [UInt8.lt_iff_toNat_lt, hByte]
    exact ha
  rw [lead?, if_pos hLess, hByte]

theorem lead?_two {a : Nat} (ha : 2 ≤ a ∧ a < 32) :
    lead? (.ofNat (a + 192)) = some ⟨a, 1, 0x80, 0xBF⟩ := by
  obtain ⟨hLow, hHigh⟩ := ha
  interval_cases a <;> rfl

theorem lead?_three {a : Nat} (ha : a < 16) :
    lead? (.ofNat (a + 224)) =
      some ⟨a, 2, if a = 0 then 0xA0 else 0x80, if a = 13 then 0x9F else 0xBF⟩ := by
  interval_cases a <;> rfl

theorem lead?_four {a : Nat} (ha : a < 5) :
    lead? (.ofNat (a + 240)) =
      some ⟨a, 3, if a = 0 then 0x90 else 0x80, if a = 4 then 0x8F else 0xBF⟩ := by
  interval_cases a <;> rfl

/-- Continuation bytes, and the lead bytes that could only begin overlong forms, begin nothing. -/
theorem lead?_continuation {byte : UInt8} (hLow : 128 ≤ byte.toNat) (hHigh : byte.toNat < 194) :
    lead? byte = none := by
  have hNotAscii : ¬ byte < 0x80 := by
    rw [UInt8.lt_iff_toNat_lt]
    exact Nat.not_lt.mpr hLow
  have hLess : byte < 0xC2 := by
    rw [UInt8.lt_iff_toNat_lt]
    exact hHigh
  rw [lead?, if_neg hNotAscii, if_pos hLess]

/-- Neither do the bytes beyond the last scalar value. -/
theorem lead?_beyond {a : Nat} (ha : a < 11) : lead? (.ofNat (a + 245)) = none := by
  interval_cases a <;> rfl

/-- A byte begins a sequence of one of the four lengths, or none. -/
theorem lead?_cases (byte : UInt8) :
    (∃ a, a < 128 ∧ byte = .ofNat a) ∨
      (∃ a, (2 ≤ a ∧ a < 32) ∧ byte = .ofNat (a + 192)) ∨
      (∃ a, a < 16 ∧ byte = .ofNat (a + 224)) ∨
      (∃ a, a < 5 ∧ byte = .ofNat (a + 240)) ∨ lead? byte = none := by
  have hSelf : ∀ n, byte.toNat = n → byte = .ofNat n := by
    rintro n rfl
    exact UInt8.ofNat_toNat.symm
  have hBound := byte.toNat_lt
  by_cases hOne : byte.toNat < 128
  · exact .inl ⟨_, hOne, hSelf _ rfl⟩
  by_cases hNone : byte.toNat < 194
  · exact .inr (.inr (.inr (.inr (lead?_continuation (by omega) hNone))))
  by_cases hTwo : byte.toNat < 224
  · exact .inr (.inl ⟨byte.toNat - 192, by omega, hSelf _ (by omega)⟩)
  by_cases hThree : byte.toNat < 240
  · exact .inr (.inr (.inl ⟨byte.toNat - 224, by omega, hSelf _ (by omega)⟩))
  by_cases hFour : byte.toNat < 245
  · exact .inr (.inr (.inr (.inl ⟨byte.toNat - 240, by omega, hSelf _ (by omega)⟩)))
  · have hBeyond := hSelf (byte.toNat - 245 + 245) (by omega)
    rw [hBeyond, lead?_beyond (by omega)]
    simp

/-! ## Pieces -/

section

variable {due : Nat} {low high : UInt8} {bits width : Nat}

/-- A byte in the range that is due is read. -/
theorem tailPiece_cons {b : Nat} (hb : b < 64) (hLow : low.toNat ≤ b + 128)
    (hHigh : b + 128 ≤ high.toNat) (rest : Bytes) :
    tailPiece (due + 1) low high bits width (.ofNat (b + 128) :: rest) =
      tailPiece due 0x80 0xBF (bits * 64 + b) (width + 1) rest := by
  have hByte : (UInt8.ofNat (b + 128)).toNat = b + 128 :=
    UInt8.toNat_ofNat_of_lt (show b + 128 < 256 by omega)
  have hMod : (b + 128) % 64 = b := by omega
  rw [tailPiece, if_pos, hByte, hMod]
  rw [UInt8.le_iff_toNat_le, UInt8.le_iff_toNat_le, hByte]
  exact ⟨hLow, hHigh⟩

/-- A sequence goes on only with a byte in the range that is due. -/
theorem exists_of_tailPiece {c : Char} {w : Nat} {bytes : Bytes}
    (h : tailPiece (due + 1) low high bits width bytes = .scalar c w)
    (hLow : 128 ≤ low.toNat) (hHigh : high.toNat < 192) :
    ∃ b rest, b < 64 ∧ low.toNat ≤ b + 128 ∧ b + 128 ≤ high.toNat ∧
      bytes = .ofNat (b + 128) :: rest ∧
      tailPiece due 0x80 0xBF (bits * 64 + b) (width + 1) rest = .scalar c w := by
  cases bytes with
  | nil => cases h
  | cons byte rest =>
      rw [tailPiece] at h
      split at h
      case isFalse => cases h
      case isTrue hRange =>
        rw [UInt8.le_iff_toNat_le, UInt8.le_iff_toNat_le] at hRange
        have hMod : byte.toNat % 64 = byte.toNat - 128 := by omega
        have hSelf : byte = .ofNat (byte.toNat - 128 + 128) := by
          rw [Nat.sub_add_cancel (by omega), UInt8.ofNat_toNat]
        rw [hMod] at h
        exact ⟨byte.toNat - 128, rest, by omega, by omega, by omega, by rw [← hSelf], h⟩

end

/-- A spelled scalar value is read. -/
theorem frontPiece_of_spelling {value : Nat} {b : UInt8} {tail : Bytes}
    (h : Spelling value (b :: tail)) (rest : Bytes) :
    frontPiece b (tail ++ rest) = .scalar (Char.ofNat value) (tail.length + 1) := by
  rw [frontPiece]
  cases h with
  | one ha =>
      rw [lead?_one ha]
      rfl
  | two ha hb =>
      rw [lead?_two ha]
      exact tailPiece_cons hb (by simp) (by simp; omega) rest
  | @three a b c ha hb hc hLow hHigh =>
      rw [lead?_three ha]
      have hLeast : (if a = 0 then (0xA0 : UInt8) else 0x80).toNat ≤ b + 128 := by
        rw [apply_ite UInt8.toNat]
        split
        · simp; omega
        · simp
      have hGreatest : b + 128 ≤ (if a = 13 then (0x9F : UInt8) else 0xBF).toNat := by
        rw [apply_ite UInt8.toNat]
        split
        · simp; omega
        · simp; omega
      exact (tailPiece_cons hb hLeast hGreatest _).trans
        (tailPiece_cons hc (by simp) (by simp; omega) rest)
  | @four a b c d ha hb hc hd hLow hHigh =>
      rw [lead?_four ha]
      have hLeast : (if a = 0 then (0x90 : UInt8) else 0x80).toNat ≤ b + 128 := by
        rw [apply_ite UInt8.toNat]
        split
        · simp; omega
        · simp
      have hGreatest : b + 128 ≤ (if a = 4 then (0x8F : UInt8) else 0xBF).toNat := by
        rw [apply_ite UInt8.toNat]
        split
        · simp; omega
        · simp; omega
      exact (tailPiece_cons hb hLeast hGreatest _).trans
        ((tailPiece_cons hc (by simp) (by simp; omega) _).trans
          (tailPiece_cons hd (by simp) (by simp; omega) rest))

/-- What is read is spelled. -/
theorem spelling_of_frontPiece {b : UInt8} {rest : Bytes} {c : Char} {w : Nat}
    (h : frontPiece b rest = .scalar c w) :
    ∃ value tail after, Spelling value (b :: tail) ∧ rest = tail ++ after ∧
      c = Char.ofNat value ∧ w = tail.length + 1 := by
  rw [frontPiece] at h
  rcases lead?_cases b with ⟨a, ha, rfl⟩ | ⟨a, ha, rfl⟩ | ⟨a, ha, rfl⟩ | ⟨a, ha, rfl⟩ | hNone
  · rw [lead?_one ha] at h
    cases h
    exact ⟨a, [], rest, .one ha, rfl, rfl, rfl⟩
  · rw [lead?_two ha] at h
    obtain ⟨second, after, hSecond, -, -, rfl, hEnd⟩ := exists_of_tailPiece h (by simp) (by simp)
    cases hEnd
    exact ⟨_, [_], after, .two ha hSecond, rfl, rfl, rfl⟩
  · rw [lead?_three ha] at h
    obtain ⟨second, rest, hSecond, hLeast, hGreatest, rfl, hGoesOn⟩ :=
      exists_of_tailPiece h (by dsimp only; split <;> simp) (by dsimp only; split <;> simp)
    obtain ⟨third, after, hThird, -, -, rfl, hEnd⟩ :=
      exists_of_tailPiece hGoesOn (by simp) (by simp)
    have hLow : a = 0 → 32 ≤ second := by
      rintro rfl
      simpa using hLeast
    have hHigh : a = 13 → second < 32 := by
      rintro rfl
      simp at hGreatest
      omega
    cases hEnd
    exact ⟨_, [_, _], after, .three ha hSecond hThird hLow hHigh, rfl, rfl, rfl⟩
  · rw [lead?_four ha] at h
    obtain ⟨second, rest, hSecond, hLeast, hGreatest, rfl, hGoesOn⟩ :=
      exists_of_tailPiece h (by dsimp only; split <;> simp) (by dsimp only; split <;> simp)
    obtain ⟨third, rest, hThird, -, -, rfl, hThirdOn⟩ :=
      exists_of_tailPiece hGoesOn (by simp) (by simp)
    obtain ⟨fourth, after, hFourth, -, -, rfl, hEnd⟩ :=
      exists_of_tailPiece hThirdOn (by simp) (by simp)
    have hLow : a = 0 → 16 ≤ second := by
      rintro rfl
      simpa using hLeast
    have hHigh : a = 4 → second < 16 := by
      rintro rfl
      simp at hGreatest
      omega
    cases hEnd
    exact ⟨_, [_, _, _], after, .four ha hSecond hThird hFourth hLow hHigh, rfl, rfl, rfl⟩
  · rw [hNone] at h
    cases h

/-- A piece is a scalar value exactly if the encoding of that value stands there. -/
theorem frontPiece_eq_scalar_iff {b : UInt8} {rest : Bytes} {c : Char} {w : Nat} :
    frontPiece b rest = .scalar c w ↔
      ∃ tail after, String.utf8EncodeChar c = b :: tail ∧ rest = tail ++ after ∧
        w = tail.length + 1 := by
  constructor
  · intro h
    obtain ⟨value, tail, after, hSpelling, hRest, rfl, hWidth⟩ := spelling_of_frontPiece h
    exact ⟨tail, after, hSpelling.utf8EncodeChar, hRest, hWidth⟩
  · rintro ⟨tail, after, hEncode, rfl, rfl⟩
    have hSpelling := spelling_toNat c
    rw [hEncode] at hSpelling
    rw [frontPiece_of_spelling hSpelling, Char.ofNat_toNat]

/-! ## Texts -/

/-- Bytes that are passed over are not there. -/
theorem piecesFrom_eq_drop (skip : Nat) (bytes : Bytes) :
    piecesFrom skip bytes = pieces (bytes.drop skip) := by
  induction bytes generalizing skip with
  | nil => cases skip <;> rfl
  | cons b rest ih =>
      cases skip with
      | zero => rfl
      | succ skip => exact ih skip

theorem pieces_cons (b : UInt8) (rest : Bytes) :
    pieces (b :: rest) =
      frontPiece b rest :: pieces (rest.drop ((frontPiece b rest).width - 1)) := by
  rw [pieces, piecesFrom, piecesFrom_eq_drop]

/-- An encoded character is a piece of its own, whatever follows it. -/
theorem pieces_utf8EncodeChar_append (c : Char) (rest : Bytes) :
    pieces (String.utf8EncodeChar c ++ rest) =
      .scalar c (String.utf8EncodeChar c).length :: pieces rest := by
  cases hEncode : String.utf8EncodeChar c with
  | nil => exact absurd hEncode (by simp)
  | cons b tail =>
      have hFront : frontPiece b (tail ++ rest) = .scalar c (tail.length + 1) :=
        frontPiece_eq_scalar_iff.mpr ⟨tail, rest, hEncode, rfl, rfl⟩
      rw [List.cons_append, pieces_cons, hFront, Piece.width, Nat.add_sub_cancel, List.drop_left,
        List.length_cons]

theorem pieces_ofText (chars : List Char) :
    pieces (chars.flatMap String.utf8EncodeChar) =
      chars.map fun c => .scalar c (String.utf8EncodeChar c).length := by
  induction chars with
  | nil => rfl
  | cons c chars ih => rw [List.flatMap_cons, pieces_utf8EncodeChar_append, ih, List.map_cons]

/-- Reading undoes writing. -/
theorem decodeLossy_ofText (text : String) : decodeLossy (ofText text) = text := by
  rw [decodeLossy, ofText, pieces_ofText, List.map_map]
  exact (congrArg String.ofList (List.map_id _)).trans String.ofList_toList

/-- The bytes of a character that was read are there. -/
theorem mem_of_mem_piecesFrom {skip : Nat} {bytes : Bytes} {c : Char} {w : Nat}
    (h : .scalar c w ∈ piecesFrom skip bytes) {x : UInt8} (hx : x ∈ String.utf8EncodeChar c) :
    x ∈ bytes := by
  induction bytes generalizing skip with
  | nil => cases skip <;> cases h
  | cons b rest ih =>
      cases skip with
      | succ skip => exact List.mem_cons_of_mem b (ih h)
      | zero =>
          rcases List.mem_cons.mp h with hFront | hLater
          · obtain ⟨tail, after, hEncode, rfl, -⟩ := frontPiece_eq_scalar_iff.mp hFront.symm
            rw [hEncode] at hx
            rw [← List.cons_append]
            exact List.mem_append_left after hx
          · exact List.mem_cons_of_mem b (ih hLater)

/-- Of what was read, written again, every byte was there or belongs to a replacement character. -/
theorem mem_ofText_decodeLossy {bytes : Bytes} {x : UInt8} (h : x ∈ ofText (decodeLossy bytes)) :
    x ∈ bytes ∨ x ∈ String.utf8EncodeChar replacement := by
  rw [ofText, decodeLossy, String.toList_ofList, List.mem_flatMap] at h
  obtain ⟨c, hChar, hx⟩ := h
  obtain ⟨piece, hPiece, rfl⟩ := List.mem_map.mp hChar
  cases piece with
  | scalar c w => exact .inl (mem_of_mem_piecesFrom hPiece hx)
  | malformed w => exact .inr hx
  | truncated w => exact .inr hx

end CanisterGateway.Bytes.Utf8
