import CanisterGateway.Proofs.Utf8

/-!
# The bytes of a text

A text and its bytes can be cut alike, as long as one cuts at ASCII: a byte below `80` is a
character of its own and belongs to no other. So a reader that looks for ASCII delimiters may work
on bytes, and what it finds is still said about characters.

## Main results

* `encode_injective` — different texts have different bytes.
* `decode?_eq_some_iff` — bytes that are read as a text are the bytes of that text.
* `takeWhile_encode`, `exists_of_ofText_eq_append` — cutting bytes at ASCII cuts characters.
-/

namespace CanisterGateway.Bytes.Utf8

/-! ## Writing characters -/

/-- The bytes of characters. -/
def encode (chars : List Char) : Bytes :=
  chars.flatMap String.utf8EncodeChar

theorem encode_append (first second : List Char) :
    encode (first ++ second) = encode first ++ encode second :=
  List.flatMap_append

theorem encode_cons (c : Char) (chars : List Char) :
    encode (c :: chars) = String.utf8EncodeChar c ++ encode chars :=
  List.flatMap_cons

theorem ofText_append (first second : String) :
    ofText (first ++ second) = ofText first ++ ofText second := by
  unfold ofText
  rw [String.toList_append]
  exact encode_append first.toList second.toList

theorem ofText_injective {first second : String} (h : ofText first = ofText second) :
    first = second := by
  rw [← decodeLossy_ofText first, h, decodeLossy_ofText]

/-- Different characters have different bytes. -/
theorem encode_injective {first second : List Char} (h : encode first = encode second) :
    first = second := by
  have hTexts : ofText (String.ofList first) = ofText (String.ofList second) := by
    unfold ofText
    rw [String.toList_ofList, String.toList_ofList]
    exact h
  exact String.ofList_injective (ofText_injective hTexts)

/-! ## Reading without replacements -/

/-- Pieces that are all scalar values are read from the bytes of those values. -/
theorem drop_eq_encode_of_pieces {skip : Nat} {bytes : Bytes} {chars : List Char}
    (h : (piecesFrom skip bytes).mapM Piece.char? = some chars) :
    bytes.drop skip = encode chars := by
  induction bytes generalizing skip chars with
  | nil =>
      rw [piecesFrom] at h
      cases h
      exact List.drop_nil
  | cons b rest ih =>
      cases skip with
      | succ skip => exact ih h
      | zero =>
          rw [piecesFrom] at h
          cases hFront : frontPiece b rest with
          | scalar c w =>
              obtain ⟨tail, after, hEncode, rfl, rfl⟩ := frontPiece_eq_scalar_iff.mp hFront
              simp only [hFront, List.mapM_cons] at h
              cases hLater : (piecesFrom ((Piece.scalar c (tail.length + 1)).width - 1)
                  (tail ++ after)).mapM Piece.char? with
              | none =>
                  rw [hLater] at h
                  cases h
              | some later =>
                  rw [hLater] at h
                  cases h
                  have hAfter := ih hLater
                  rw [Piece.width, Nat.add_sub_cancel, List.drop_left] at hAfter
                  rw [encode_cons, hEncode, ← hAfter]
                  rfl
          | malformed w =>
              rw [hFront, List.mapM_cons] at h
              cases h
          | truncated w =>
              rw [hFront, List.mapM_cons] at h
              cases h

theorem mapM_char?_scalar (chars : List Char) :
    (chars.map fun c => Piece.scalar c (String.utf8EncodeChar c).length).mapM Piece.char? =
      some chars := by
  induction chars with
  | nil => rfl
  | cons c chars ih =>
      rw [List.map_cons, List.mapM_cons, ih]
      rfl

theorem decode?_eq_some_iff {bytes : Bytes} {text : String} :
    decode? bytes = some text ↔ bytes = ofText text := by
  constructor
  · intro h
    obtain ⟨chars, hChars, rfl⟩ := Option.map_eq_some_iff.mp h
    have hBytes : bytes.drop 0 = encode chars := drop_eq_encode_of_pieces hChars
    rw [ofText, String.toList_ofList]
    exact hBytes
  · rintro rfl
    rw [decode?, ofText, pieces_ofText, mapM_char?_scalar, Option.map_some, String.ofList_toList]

/-! ## ASCII -/

theorem not_ascii {n : Nat} (hLow : 128 ≤ n) (hHigh : n < 256) : ¬ UInt8.ofNat n < 0x80 := by
  have hSelf : (UInt8.ofNat n).toNat = n := UInt8.toNat_ofNat_of_lt hHigh
  rw [UInt8.lt_iff_toNat_lt, hSelf]
  exact Nat.not_lt.mpr hLow

/-- A byte of ASCII spells a scalar value on its own: lead bytes and continuation bytes are beyond
ASCII. -/
theorem Spelling.eq_singleton {value : Nat} {bytes : Bytes} {b : UInt8}
    (h : Spelling value bytes) (hMem : b ∈ bytes) (hAscii : b < 0x80) : bytes = [b] := by
  cases h with
  | one ha => rw [List.mem_singleton.mp hMem]
  | two ha hb =>
      simp only [List.mem_cons, List.not_mem_nil, or_false] at hMem
      rcases hMem with rfl | rfl
      all_goals exact absurd hAscii (not_ascii (by omega) (by omega))
  | three ha hb hc hLeast hGreatest =>
      simp only [List.mem_cons, List.not_mem_nil, or_false] at hMem
      rcases hMem with rfl | rfl | rfl
      all_goals exact absurd hAscii (not_ascii (by omega) (by omega))
  | four ha hb hc hd hLeast hGreatest =>
      simp only [List.mem_cons, List.not_mem_nil, or_false] at hMem
      rcases hMem with rfl | rfl | rfl | rfl
      all_goals exact absurd hAscii (not_ascii (by omega) (by omega))

/-- A byte of ASCII is only found where its character is. -/
theorem eq_of_mem_utf8EncodeChar {c stop : Char} {b : UInt8}
    (hStop : String.utf8EncodeChar stop = [b]) (hb : b < 0x80)
    (h : b ∈ String.utf8EncodeChar c) : c = stop := by
  have hAlone : String.utf8EncodeChar c = [b] := (spelling_toNat c).eq_singleton h hb
  have hSame : encode [c] = encode [stop] := by
    rw [encode_cons, encode_cons, hAlone, hStop]
  exact List.singleton_inj.mp (encode_injective hSame)

theorem mem_encode_iff {chars : List Char} {stop : Char} {b : UInt8}
    (hStop : String.utf8EncodeChar stop = [b]) (hb : b < 0x80) :
    b ∈ encode chars ↔ stop ∈ chars := by
  unfold encode
  rw [List.mem_flatMap]
  constructor
  · rintro ⟨c, hChar, hByte⟩
    rw [← eq_of_mem_utf8EncodeChar hStop hb hByte]
    exact hChar
  · intro hChar
    refine ⟨stop, hChar, ?_⟩
    rw [hStop]
    exact List.mem_singleton_self b

/-- Bytes up to one of ASCII are characters up to its own. -/
theorem takeWhile_encode {stop : Char} {b : UInt8} (hStop : String.utf8EncodeChar stop = [b])
    (hb : b < 0x80) (chars : List Char) :
    (encode chars).takeWhile (· ≠ b) = encode (chars.takeWhile (· ≠ stop)) := by
  induction chars with
  | nil => rfl
  | cons c chars ih =>
      rw [encode_cons]
      by_cases hChar : c = stop
      · rw [hChar, hStop, List.takeWhile_cons_of_neg (by simp)]
        rw [List.singleton_append, List.takeWhile_cons_of_neg (by simp)]
        rfl
      · have hAll : ∀ x ∈ String.utf8EncodeChar c, decide (x ≠ b) = true := by
          intro x hx
          rw [decide_eq_true_iff]
          rintro rfl
          exact hChar (eq_of_mem_utf8EncodeChar hStop hb hx)
        rw [List.takeWhile_append_of_pos hAll, ih,
          List.takeWhile_cons_of_pos (by simpa using hChar), encode_cons]

/-- Bytes of ASCII at the front are whole characters. -/
theorem exists_of_encode_eq_append {chars : List Char} {front back : Bytes}
    (h : encode chars = front ++ back) (hFront : ∀ b ∈ front, b < 0x80) :
    ∃ first second, chars = first ++ second ∧ encode first = front ∧ encode second = back := by
  induction front generalizing chars with
  | nil => exact ⟨[], chars, rfl, rfl, h⟩
  | cons b front ih =>
      cases chars with
      | nil => cases h
      | cons c chars =>
          have hLow : b < 0x80 := hFront b (List.mem_cons_self)
          have hMem : b ∈ String.utf8EncodeChar c := by
            cases hEncode : String.utf8EncodeChar c with
            | nil => exact absurd hEncode (by simp)
            | cons x tail =>
                rw [encode_cons, hEncode] at h
                rw [(List.cons.inj h).1]
                exact List.mem_cons_self
          have hAlone : String.utf8EncodeChar c = [b] :=
            (spelling_toNat c).eq_singleton hMem hLow
          rw [encode_cons, hAlone] at h
          obtain ⟨first, second, rfl, hFirst, hSecond⟩ :=
            ih (List.cons.inj h).2 (fun x hx => hFront x (List.mem_cons_of_mem b hx))
          refine ⟨c :: first, second, rfl, ?_, hSecond⟩
          rw [encode_cons, hAlone, hFirst]
          rfl

/-! ## ASCII in texts -/

/-- A text begins with the texts of bytes of ASCII that its bytes begin with. -/
theorem exists_of_ofText_eq_append {text : String} {front back : Bytes}
    (h : ofText text = front ++ back) (hFront : ∀ b ∈ front, b < 0x80) :
    ∃ first second, text = first ++ second ∧ ofText first = front ∧ ofText second = back := by
  obtain ⟨first, second, hChars, hFirst, hSecond⟩ :=
    exists_of_encode_eq_append h hFront
  refine ⟨String.ofList first, String.ofList second, ?_, ?_, ?_⟩
  · rw [← String.ofList_append, ← hChars, String.ofList_toList]
  · rw [ofText, String.toList_ofList]
    exact hFirst
  · rw [ofText, String.toList_ofList]
    exact hSecond

/-- A character of ASCII is in a text if its byte is. -/
theorem mem_ofText_iff {text : String} {c : Char} {b : UInt8}
    (hChar : String.utf8EncodeChar c = [b]) (hb : b < 0x80) :
    b ∈ ofText text ↔ c ∈ text.toList :=
  mem_encode_iff hChar hb

/-- The text begins with a character of ASCII if its bytes do. -/
theorem head?_of_ofText {text : String} {c : Char} {b : UInt8} {more : Bytes}
    (hChar : String.utf8EncodeChar c = [b]) (hb : b < 0x80) (h : ofText text = b :: more) :
    text.toList.head? = some c := by
  have hSingle : ∀ x ∈ [b], x < 0x80 := by
    intro x hx
    rw [List.mem_singleton.mp hx]
    exact hb
  obtain ⟨first, second, rfl, hFirst, -⟩ := exists_of_ofText_eq_append h hSingle
  have hSame : first = String.singleton c := by
    apply ofText_injective
    rw [hFirst, ofText, String.toList_singleton, List.flatMap_singleton, hChar]
  rw [hSame, String.toList_append, String.toList_singleton]
  rfl

end CanisterGateway.Bytes.Utf8
