import CanisterGateway.Proofs.Encoding

/-!
# The hexadecimal texts of a byte string

Each byte string has one hexadecimal text in lower case, and is read from that text with its letters
in any case, and from no other. So a text is read exactly if it consists of hexadecimal digits and
has an even number of them; as the digits are of ASCII, it does not matter whether characters or
their bytes are counted.

## Main results

* `hexDigit?_eq_some_iff` — the digits of a value, and the value of a digit.
* `ofHex?_eq_some_iff` — the texts that a byte string is read from.
* `exists_ofHex?_iff` — the texts that some byte string is read from.
-/

namespace CanisterGateway.Bytes

/-! ## Digits -/

/-- The hexadecimal digits, with letters of either case. -/
def IsHexDigit (c : Char) : Prop :=
  ('0' ≤ c ∧ c ≤ '9') ∨ ('a' ≤ c ∧ c ≤ 'f') ∨ ('A' ≤ c ∧ c ≤ 'F')

instance (c : Char) : Decidable (IsHexDigit c) :=
  inferInstanceAs (Decidable (_ ∨ _))

/-- A property of all characters of ASCII, from its instances. -/
theorem forall_ascii {p : Char → Prop} (h : ∀ n : Fin 128, p (Char.ofNat n)) {c : Char}
    (hAscii : c.toNat < 128) : p c := by
  have hChar := h ⟨c.toNat, hAscii⟩
  rwa [Char.ofNat_toNat] at hChar

/-- A hexadecimal digit is a character of ASCII. -/
theorem IsHexDigit.toNat_lt {c : Char} (h : IsHexDigit c) : c.toNat < 128 := by
  have hNine : '9'.toNat = 57 := rfl
  have hSmall : 'f'.toNat = 102 := rfl
  have hCapital : 'F'.toNat = 70 := rfl
  simp only [IsHexDigit, Char.le_def, UInt32.le_iff_toNat_le, Char.toNat_val] at h
  omega

theorem hexDigit?_isSome_iff {c : Char} : (hexDigit? c).isSome = true ↔ IsHexDigit c := by
  unfold hexDigit? IsHexDigit
  split_ifs <;> simp_all

/-- The case of a letter has no say in its value. -/
theorem hexDigit?_toLower (c : Char) : hexDigit? c.toLower = hexDigit? c := by
  by_cases hAscii : c.toNat < 128
  · exact forall_ascii (p := fun c => hexDigit? c.toLower = hexDigit? c) (by decide +kernel) hAscii
  · -- Only letters of ASCII have another case here.
    have hKept : c.toLower = c := by
      have hLast : 'Z'.val.toNat = 90 := rfl
      refine dif_neg fun hLetter => ?_
      have hUpper := UInt32.le_iff_toNat_le.mp hLetter.2
      rw [Char.toNat_val] at hUpper
      omega
    rw [hKept]

/-- A digit has a value below sixteen, and is the digit of that value but for its case. -/
theorem hexDigit?_eq_some_iff {c : Char} {value : UInt8} :
    hexDigit? c = some value ↔ value < 16 ∧ c.toLower = hexChar value.toNat := by
  constructor
  · intro h
    have hDigit : IsHexDigit c := hexDigit?_isSome_iff.mp (by rw [h]; rfl)
    have hAll := forall_ascii
      (p := fun c => ∀ value ∈ hexDigit? c, value < 16 ∧ c.toLower = hexChar value.toNat)
      (by decide +kernel) hDigit.toNat_lt
    exact hAll value h
  · intro ⟨hBound, hSame⟩
    rw [← hexDigit?_toLower, hSame, hexDigit?_hexChar (UInt8.lt_iff_toNat_lt.mp hBound),
      UInt8.ofNat_toNat]

/-! ## Texts -/

theorem length_toHexChars (bytes : Bytes) : bytes.toHexChars.length = 2 * bytes.length := by
  induction bytes with
  | nil => rfl
  | cons b rest ih =>
      simp only [toHexChars, List.flatMap_cons, List.length_append, List.length_cons,
        List.length_nil] at ih ⊢
      omega

theorem isHexDigit_of_mem_toHexChars {bytes : Bytes} {c : Char} (h : c ∈ bytes.toHexChars) :
    IsHexDigit c := by
  have hDigits : ∀ n : Fin 16, IsHexDigit (hexChar n) := by decide
  simp only [toHexChars, List.mem_flatMap, List.mem_cons, List.not_mem_nil, or_false] at h
  obtain ⟨b, -, rfl | rfl⟩ := h
  · exact hDigits ⟨b.toNat / 16, by have := b.toNat_lt; omega⟩
  · exact hDigits ⟨b.toNat % 16, by omega⟩

/-- Different byte strings have different texts. -/
theorem toHexChars_injective {first second : Bytes} (h : first.toHexChars = second.toHexChars) :
    first = second := by
  have hRead := ofHex?_toHexChars first
  rw [h, ofHex?_toHexChars] at hRead
  exact (Option.some.inj hRead).symm

/-- The case of the letters has no say in what is read. -/
theorem ofHex?_toLower (text : List Char) : ofHex? (text.map Char.toLower) = ofHex? text := by
  induction text using ofHex?.induct with
  | case1 => rfl
  | case2 c => rfl
  | case3 high low rest h l tail hTail hLow hHigh ih =>
      simp only [List.map_cons, ofHex?, hexDigit?_toLower, ih]
  | case4 high low rest hNone ih =>
      simp only [List.map_cons, ofHex?, hexDigit?_toLower, ih]

/-- Two digits show the byte that their values make up. -/
theorem halves_of_lt {high low : UInt8} (hHigh : high < 16) (hLow : low < 16) :
    (high * 16 + low).toNat / 16 = high.toNat ∧ (high * 16 + low).toNat % 16 = low.toNat := by
  have hHighNat := UInt8.lt_iff_toNat_lt.mp hHigh
  have hLowNat := UInt8.lt_iff_toNat_lt.mp hLow
  simp only [UInt8.toNat_add, UInt8.toNat_mul, UInt8.toNat_ofNat] at hHighNat hLowNat ⊢
  omega

/-- What a byte string is read from is its hexadecimal text but for the case. -/
theorem toLower_of_ofHex? {text : List Char} {bytes : Bytes} (h : ofHex? text = some bytes) :
    text.map Char.toLower = bytes.toHexChars := by
  induction text using ofHex?.induct generalizing bytes with
  | case1 =>
      cases h
      rfl
  | case2 c => cases h
  | case3 high low rest highValue lowValue tail hTail hLow hHigh ih =>
      rw [ofHex?, hHigh, hLow, hTail] at h
      cases h
      obtain ⟨hHighBound, hHighChar⟩ := hexDigit?_eq_some_iff.mp hHigh
      obtain ⟨hLowBound, hLowChar⟩ := hexDigit?_eq_some_iff.mp hLow
      obtain ⟨hDiv, hMod⟩ := halves_of_lt hHighBound hLowBound
      rw [toHexChars, List.flatMap_cons, hDiv, hMod, List.map_cons, List.map_cons, hHighChar,
        hLowChar, ih hTail]
      rfl
  | case4 high low rest hNone ih =>
      rw [ofHex?] at h
      split at h
      · next hHigh hLow hTail => exact (hNone _ _ _ hHigh hLow hTail).elim
      · cases h

/-- **A byte string is read from its hexadecimal text in any case, and from no other text.** -/
theorem ofHex?_eq_some_iff {text : List Char} {bytes : Bytes} :
    ofHex? text = some bytes ↔ text.map Char.toLower = bytes.toHexChars := by
  constructor
  · exact toLower_of_ofHex?
  · intro h
    rw [← ofHex?_toLower, h, ofHex?_toHexChars]

theorem ofHex?_eq_some_nil_iff {text : List Char} : ofHex? text = some [] ↔ text = [] := by
  rw [ofHex?_eq_some_iff]
  exact List.map_eq_nil_iff

/-- Digits in pairs show some bytes. -/
theorem exists_ofHex?_of_digits : ∀ {text : List Char}, text.length % 2 = 0 →
    (∀ c ∈ text, IsHexDigit c) → ∃ bytes, ofHex? text = some bytes
  | [], _, _ => ⟨[], rfl⟩
  | [_], hEven, _ => nomatch hEven
  | high :: low :: rest, hEven, hDigits => by
      simp only [List.forall_mem_cons] at hDigits
      obtain ⟨hHigh, hLow, hRest⟩ := hDigits
      obtain ⟨highValue, hHighValue⟩ := Option.isSome_iff_exists.mp (hexDigit?_isSome_iff.mpr hHigh)
      obtain ⟨lowValue, hLowValue⟩ := Option.isSome_iff_exists.mp (hexDigit?_isSome_iff.mpr hLow)
      have hRestEven : rest.length % 2 = 0 := by
        simp only [List.length_cons] at hEven
        omega
      obtain ⟨tail, hTail⟩ := exists_ofHex?_of_digits hRestEven hRest
      exact ⟨_, by rw [ofHex?, hHighValue, hLowValue, hTail]⟩

/-- The texts that some byte string is read from are digits in pairs. -/
theorem exists_ofHex?_iff {text : List Char} :
    (∃ bytes, ofHex? text = some bytes) ↔ text.length % 2 = 0 ∧ ∀ c ∈ text, IsHexDigit c := by
  constructor
  · intro ⟨bytes, hRead⟩
    have hText := ofHex?_eq_some_iff.mp hRead
    constructor
    · have hLength := length_toHexChars bytes
      rw [← hText, List.length_map] at hLength
      omega
    · intro c hMem
      have hLower : c.toLower ∈ bytes.toHexChars := by
        rw [← hText]
        exact List.mem_map_of_mem hMem
      have hDigit := hexDigit?_isSome_iff.mpr (isHexDigit_of_mem_toHexChars hLower)
      rwa [hexDigit?_toLower, hexDigit?_isSome_iff] at hDigit
  · intro ⟨hEven, hDigits⟩
    exact exists_ofHex?_of_digits hEven hDigits

/-- Digits are as many bytes as characters. -/
theorem length_encode_of_digits {text : List Char} (h : ∀ c ∈ text, IsHexDigit c) :
    (Utf8.encode text).length = text.length := by
  induction text with
  | nil => rfl
  | cons c rest ih =>
      obtain ⟨hFirst, hRest⟩ := List.forall_mem_cons.mp h
      have hOne : c.utf8Size = 1 := by
        rw [Char.utf8Size_eq_one_iff, UInt32.le_iff_toNat_le, Char.toNat_val]
        exact Nat.le_of_lt_succ hFirst.toNat_lt
      rw [Utf8.encode_cons, List.length_append, String.length_utf8EncodeChar, hOne, ih hRest,
        List.length_cons, Nat.add_comm]

/-- Digits come in pairs exactly if their bytes do. -/
theorem even_length_encode_iff {text : List Char} :
    ((Utf8.encode text).length % 2 = 0 ∧ ∀ c ∈ text, IsHexDigit c) ↔
      text.length % 2 = 0 ∧ ∀ c ∈ text, IsHexDigit c := by
  apply and_congr_left
  intro hDigits
  rw [length_encode_of_digits hDigits]

end CanisterGateway.Bytes
