import Mathlib.Data.List.TakeWhile
import CanisterGateway.Proofs.Hexadecimal
import CanisterGateway.Server.Parameter

/-!
# The texts of a root key

The server can be told which root key to trust. What it is told is trimmed of its blanks and read as
hexadecimal text, so a key can be written in many ways, but no text writes two keys, and none the
empty one.

What trimming leaves is told apart from how it is done: a text is cut in three, the blanks in front,
the blanks behind, and what neither begins nor ends with one. There is but one such cut.

## Main results

* `trimBy_eq_iff` — what is left when a list is trimmed.
* `readRootKey_eq_ok_iff` — the key that a text writes.
* `readRootKey_eq_keyEmpty_iff`, `readRootKey_eq_keyDigits_iff` — what is wrong with the others.
* `readRootKey_accepts_hexadecimal` — which texts write a key, and which of them the same.
-/

namespace CanisterGateway.Text

/-! ## Trimming -/

section

variable {α : Type} {drop : α → Bool} {items kept : List α}

/-- What is left of a list without what is of a class in front and behind. -/
structure Trimmed (drop : α → Bool) (items kept : List α) : Prop where
  cut : ∃ before after, items = before ++ kept ++ after ∧
    (∀ x ∈ before, drop x = true) ∧ ∀ x ∈ after, drop x = true
  head : ∀ x ∈ kept.head?, drop x = false
  last : ∀ x ∈ kept.getLast?, drop x = false

/-- What is not dropped begins outside of the class. -/
theorem head_dropWhile : ∀ x ∈ (items.dropWhile drop).head?, drop x = false := by
  intro x hx
  have hHead := List.head?_dropWhile_not drop items
  rwa [hx] at hHead

/-- Dropping ends where the class does. -/
theorem dropWhile_append_of_head {front : List α} (hFront : ∀ x ∈ front, drop x = true)
    (hHead : ∀ x ∈ kept.head?, drop x = false) : (front ++ kept).dropWhile drop = kept := by
  rw [List.dropWhile_append_of_pos hFront]
  cases kept with
  | nil => rfl
  | cons x rest => rw [List.dropWhile_cons_of_neg (by simp [hHead x rfl])]

/-- Behind what trimming leaves stand members of the class. -/
theorem exists_dropWhile_eq_trimBy_append (drop : α → Bool) (items : List α) :
    ∃ after, items.dropWhile drop = trimBy drop items ++ after ∧ ∀ x ∈ after, drop x = true := by
  refine ⟨((items.dropWhile drop).reverse.takeWhile drop).reverse, ?_, ?_⟩
  · rw [trimBy, ← List.reverse_append, List.takeWhile_append_dropWhile, List.reverse_reverse]
  · intro x hx
    exact List.mem_takeWhile_imp (List.mem_reverse.mp hx)

theorem trimmed_trimBy : Trimmed drop items (trimBy drop items) := by
  obtain ⟨after, hMiddle, hAfter⟩ := exists_dropWhile_eq_trimBy_append drop items
  constructor
  · refine ⟨items.takeWhile drop, after, ?_, fun x hx => List.mem_takeWhile_imp hx, hAfter⟩
    rw [List.append_assoc, ← hMiddle, List.takeWhile_append_dropWhile]
  · intro x hx
    have hFirst : (items.dropWhile drop).head? = some x := by
      rw [hMiddle, List.head?_append, hx]
      rfl
    exact head_dropWhile x hFirst
  · rw [trimBy, List.getLast?_reverse]
    exact head_dropWhile

theorem Trimmed.trimBy_eq (h : Trimmed drop items kept) : trimBy drop items = kept := by
  obtain ⟨⟨before, after, rfl, hBefore, hAfter⟩, hHead, hLast⟩ := h
  have hAfterReverse : ∀ x ∈ after.reverse, drop x = true := by
    intro x hx
    exact hAfter x (List.mem_reverse.mp hx)
  cases kept with
  | nil =>
      -- Both ends meet, so they are dropped together from the front.
      have hAll : ∀ x ∈ before ++ after, drop x = true := by
        intro x hx
        exact (List.mem_append.mp hx).elim (hBefore x) (hAfter x)
      have hNothing : (before ++ after ++ []).dropWhile drop = [] :=
        dropWhile_append_of_head hAll hHead
      rw [List.append_nil] at hNothing ⊢
      rw [trimBy, hNothing]
      rfl
  | cons first rest =>
      have hFront : (before ++ (first :: rest ++ after)).dropWhile drop = first :: rest ++ after :=
        dropWhile_append_of_head hBefore hHead
      have hBack : (after.reverse ++ (first :: rest).reverse).dropWhile drop =
          (first :: rest).reverse := by
        apply dropWhile_append_of_head hAfterReverse
        rw [List.head?_reverse]
        exact hLast
      rw [trimBy, List.append_assoc, hFront, List.reverse_append, hBack, List.reverse_reverse]

/-- **Trimming leaves what is between members of a class, and begins and ends outside of it.** -/
theorem trimBy_eq_iff : trimBy drop items = kept ↔ Trimmed drop items kept := by
  constructor
  · rintro rfl
    exact trimmed_trimBy
  · exact Trimmed.trimBy_eq

end

end CanisterGateway.Text

namespace CanisterGateway.Server

open Bytes (IsHexDigit)

/-! ## Root keys -/

section

variable {value : String} {key : Bytes}

/-- **The key that a text writes.** -/
theorem readRootKey_eq_ok_iff :
    readRootKey value = .ok key ↔
      key ≠ [] ∧ (Text.trim value.toList).map Char.toLower = key.toHexChars := by
  rw [← Bytes.ofHex?_eq_some_iff, readRootKey]
  rcases Bytes.ofHex? (Text.trim value.toList) with _ | _ | ⟨first, rest⟩
  · simp
  · simp
  · constructor
    · intro h
      cases h
      exact ⟨List.cons_ne_nil first rest, rfl⟩
    · rintro ⟨-, h⟩
      cases h
      rfl

/-- What is said of blanks alone. -/
theorem readRootKey_eq_keyEmpty_iff :
    readRootKey value = .error .keyEmpty ↔ Text.trim value.toList = [] := by
  rw [← Bytes.ofHex?_eq_some_nil_iff, readRootKey]
  rcases Bytes.ofHex? (Text.trim value.toList) with _ | _ | ⟨first, rest⟩
  all_goals simp

/-- What is said of anything but pairs of digits. -/
theorem readRootKey_eq_keyDigits_iff :
    readRootKey value = .error .keyDigits ↔
      ¬ ((Text.trim value.toList).length % 2 = 0 ∧
        ∀ c ∈ Text.trim value.toList, IsHexDigit c) := by
  rw [← Bytes.exists_ofHex?_iff, readRootKey]
  rcases Bytes.ofHex? (Text.trim value.toList) with _ | _ | ⟨first, rest⟩
  all_goals simp

/-- The texts that write some key. -/
theorem exists_readRootKey_iff :
    (∃ key, readRootKey value = .ok key) ↔
      Text.trim value.toList ≠ [] ∧ (Text.trim value.toList).length % 2 = 0 ∧
        ∀ c ∈ Text.trim value.toList, IsHexDigit c := by
  rw [← Bytes.exists_ofHex?_iff, ne_eq, ← Bytes.ofHex?_eq_some_nil_iff]
  constructor
  · intro ⟨key, hRead⟩
    obtain ⟨hKey, hText⟩ := readRootKey_eq_ok_iff.mp hRead
    have hBytes := Bytes.ofHex?_eq_some_iff.mpr hText
    refine ⟨?_, key, hBytes⟩
    rw [hBytes]
    exact fun h => hKey (Option.some.inj h)
  · intro ⟨hSome, key, hBytes⟩
    refine ⟨key, readRootKey_eq_ok_iff.mpr ⟨?_, Bytes.ofHex?_eq_some_iff.mp hBytes⟩⟩
    rintro rfl
    exact hSome hBytes

end

/-- A digit is no blank, so trimming ends where the digits begin. -/
theorem isBlank_of_isHexDigit {c : Char} (h : IsHexDigit c) : Text.isBlank c = false :=
  Bytes.forall_ascii (p := fun c => IsHexDigit c → Text.isBlank c = false) (by decide +kernel)
    h.toNat_lt h

/-- Digits between blanks are what trimming leaves. -/
theorem trimmed_of_digits {before digits after : List Char}
    (hBefore : ∀ c ∈ before, Text.isBlank c = true) (hDigits : ∀ c ∈ digits, IsHexDigit c)
    (hAfter : ∀ c ∈ after, Text.isBlank c = true) :
    Text.Trimmed Text.isBlank (before ++ digits ++ after) digits := by
  refine ⟨⟨before, after, rfl, hBefore, hAfter⟩, ?_, ?_⟩
  · intro c hc
    exact isBlank_of_isHexDigit (hDigits c (List.mem_of_mem_head? hc))
  · intro c hc
    exact isBlank_of_isHexDigit (hDigits c (List.mem_of_getLast? hc))

/-- A key is read from its digits in any case, between any blanks. -/
theorem readRootKey_of_digits {key : Bytes} {before digits after : List Char} (hKey : key ≠ [])
    (hDigits : digits.map Char.toLower = key.toHexChars)
    (hBefore : ∀ c ∈ before, Text.isBlank c = true)
    (hAfter : ∀ c ∈ after, Text.isBlank c = true) :
    readRootKey (String.ofList (before ++ digits ++ after)) = .ok key := by
  have hRead := Bytes.ofHex?_eq_some_iff.mpr hDigits
  obtain ⟨-, hAll⟩ := Bytes.exists_ofHex?_iff.mp ⟨key, hRead⟩
  have hTrim : Text.trim (before ++ digits ++ after) = digits :=
    (trimmed_of_digits hBefore hAll hAfter).trimBy_eq
  rw [readRootKey_eq_ok_iff, String.toList_ofList, hTrim]
  exact ⟨hKey, hDigits⟩

/-- Texts of the same key differ in nothing but blanks around them and the case of their letters. -/
theorem eq_iff_of_readRootKey {first second : String} {key other : Bytes}
    (hFirst : readRootKey first = .ok key) (hSecond : readRootKey second = .ok other) :
    key = other ↔
      (Text.trim first.toList).map Char.toLower = (Text.trim second.toList).map Char.toLower := by
  rw [(readRootKey_eq_ok_iff.mp hFirst).2, (readRootKey_eq_ok_iff.mp hSecond).2]
  exact ⟨congrArg Bytes.toHexChars, Bytes.toHexChars_injective⟩

/--
**A root key is written by its hexadecimal text, and by nothing else.** For every text that the
server is told, and every key:

* what is left of the text without the blanks in front and behind is one text only, and the text
  writes the key exactly if that is the key's hexadecimal text but for the case of its letters;
* so the text writes some key exactly if what is left is not empty, has an even number of bytes, and
  consists of digits and letters up to `f` of either case; that nothing is left is a fault of its
  own, and that something else is left is another;
* a key that is not empty is read from its hexadecimal text, in whatever case each of its letters
  is, and whatever blanks are around it;
* two texts that write keys write the same key exactly if what is left of them differs in nothing
  but the case of its letters;
* no text writes the empty key.
-/
theorem readRootKey_accepts_hexadecimal :
    (∀ value : String,
      let text := Text.trim value.toList
      (∀ kept, Text.Trimmed Text.isBlank value.toList kept ↔ text = kept) ∧
        (∀ key, readRootKey value = .ok key ↔
          key ≠ [] ∧ text.map Char.toLower = key.toHexChars) ∧
        ((∃ key, readRootKey value = .ok key) ↔
          text ≠ [] ∧ (Bytes.Utf8.encode text).length % 2 = 0 ∧ ∀ c ∈ text, IsHexDigit c) ∧
        (readRootKey value = .error .keyEmpty ↔ text = []) ∧
        (readRootKey value = .error .keyDigits ↔
          ¬ ((Bytes.Utf8.encode text).length % 2 = 0 ∧ ∀ c ∈ text, IsHexDigit c))) ∧
      (∀ (key : Bytes) (before digits after : List Char), key ≠ [] →
        digits.map Char.toLower = key.toHexChars →
        (∀ c ∈ before, Text.isBlank c = true) → (∀ c ∈ after, Text.isBlank c = true) →
        readRootKey (String.ofList (before ++ digits ++ after)) = .ok key) ∧
      (∀ (first second : String) (key other : Bytes),
        readRootKey first = .ok key → readRootKey second = .ok other →
        (key = other ↔
          (Text.trim first.toList).map Char.toLower =
            (Text.trim second.toList).map Char.toLower)) ∧
      ∀ value, readRootKey value ≠ .ok [] := by
  refine ⟨?_, ?_, ?_, readRootKey_ne_nil⟩
  · intro value text
    refine ⟨fun kept => Text.trimBy_eq_iff.symm, fun key => readRootKey_eq_ok_iff, ?_,
      readRootKey_eq_keyEmpty_iff, ?_⟩
    · rw [Bytes.even_length_encode_iff]
      exact exists_readRootKey_iff
    · rw [Bytes.even_length_encode_iff]
      exact readRootKey_eq_keyDigits_iff
  · intro key before digits after hKey hDigits hBefore hAfter
    exact readRootKey_of_digits hKey hDigits hBefore hAfter
  · intro first second key other hFirst hSecond
    exact eq_iff_of_readRootKey hFirst hSecond

/-- A key in two spellings, one of them between blanks beyond ASCII, and texts that write none: with
a blank inside, with a digit beyond ASCII, and with nothing but blanks. -/
theorem readRootKey_accepts_hexadecimal_of_spellings :
    readRootKey "\u3000\t3081aB\u0085\n" = .ok [0x30, 0x81, 0xAB] ∧
      readRootKey "3081Ab" = .ok [0x30, 0x81, 0xAB] ∧
      "3081aB".toList.map Char.toLower = "3081Ab".toList.map Char.toLower ∧
      readRootKey "30 81" = .error .keyDigits ∧ readRootKey "30\uFF18\uFF11" = .error .keyDigits ∧
      readRootKey "\u00A0\r" = .error .keyEmpty := by
  obtain ⟨hRead, hText, hSame, -⟩ := readRootKey_accepts_hexadecimal
  have hFirst := hText [0x30, 0x81, 0xAB] ['\u3000', '\t'] "3081aB".toList ['\u0085', '\n']
    (by decide) (by decide) (List.all_eq_true.mp rfl) (List.all_eq_true.mp rfl)
  have hSecond := hText [0x30, 0x81, 0xAB] [] "3081Ab".toList []
    (by decide) (by decide) (List.all_eq_true.mp rfl) (List.all_eq_true.mp rfl)
  have hInside : ' ' ∈ Text.trim "30 81".toList ∧ ¬ IsHexDigit ' ' := by decide
  have hBeyond : '\uFF18' ∈ Text.trim "30\uFF18\uFF11".toList ∧ ¬ IsHexDigit '\uFF18' := by decide
  refine ⟨hFirst, hSecond, (hSame _ _ _ _ hFirst hSecond).mp rfl, ?_, ?_, ?_⟩
  · exact (hRead "30 81").2.2.2.2.mpr fun h => hInside.2 (h.2 ' ' hInside.1)
  · exact (hRead "30\uFF18\uFF11").2.2.2.2.mpr fun h => hBeyond.2 (h.2 '\uFF18' hBeyond.1)
  · exact (hRead "\u00A0\r").2.2.2.1.mpr (by decide)

end CanisterGateway.Server
