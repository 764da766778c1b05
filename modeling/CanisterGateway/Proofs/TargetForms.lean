import CanisterGateway.Http.Target
import CanisterGateway.Proofs.Encoding

/-!
# The forms of targets

Bytes are a path, perhaps a query, and perhaps a fragment, which are told apart by the first
question mark and the first number sign. What is read from them is a resource that was written
there, where only the root may be left out. Reading and writing are told for resources once, and a
target is a resource with an address in front, or an address alone.

## Main results

* `Resource.read_of_admissible`, `Resource.exists_written_of_read` — which resources are read, and
  from which bytes.
* `Target.form_of_read` — every target is read in one of four forms.
-/

namespace CanisterGateway.Http

open Bytes (ofText)
open Bytes.Utf8 (ofText_append ofText_injective)

variable {grammar : TargetGrammar}

/-! ## Bytes of paths and queries -/

theorem targetText_eq_ok_iff {bytes : Bytes} {text : String} :
    targetText bytes = .ok text ↔ bytes = ofText text := by
  rw [← Bytes.Utf8.decode?_eq_some_iff, targetText]
  cases Bytes.Utf8.decode? bytes <;> simp

theorem bind_eq_ok_iff {β γ : Type} {first : Except TargetFault β}
    {next : β → Except TargetFault γ} {value : γ} :
    first >>= next = .ok value ↔ ∃ found, first = .ok found ∧ next found = .ok value := by
  cases first with
  | error fault => exact ⟨nofun, nofun⟩
  | ok found =>
      constructor
      · intro h
        exact ⟨found, rfl, h⟩
      · rintro ⟨_, ⟨⟩, h⟩
        exact h

theorem guard_eq_ok_iff {β : Type} {holds : Bool} {result : Except TargetFault β}
    {fault : TargetFault} {value : β} :
    (if holds then result else .error fault) = .ok value ↔
      holds = true ∧ result = .ok value := by
  cases holds with
  | false => exact ⟨nofun, nofun⟩
  | true => exact ⟨fun h => ⟨rfl, h⟩, And.right⟩

/-- What is left when bytes of a kind are passed over begins with a byte of another kind. -/
theorem dropWhile_cases (p : UInt8 → Bool) (bytes : Bytes) :
    bytes.dropWhile p = [] ∨ ∃ b more, bytes.dropWhile p = b :: more ∧ p b = false := by
  have hHead := List.head?_dropWhile_not p bytes
  cases hRest : bytes.dropWhile p with
  | nil => exact .inl rfl
  | cons b more =>
      rw [hRest] at hHead
      exact .inr ⟨b, more, rfl, hHead⟩

namespace Resource

/-- A resource that the grammar can write. -/
structure Admissible (grammar : TargetGrammar) (resource : Resource) : Prop where
  path : ∀ b ∈ ofText resource.path, grammar.isPathByte b = true
  query : ∀ query, resource.query? = some query →
    ∀ b ∈ ofText query, grammar.isQueryByte b = true

/-- The resource that is meant: without a path, the root. -/
def rooted (resource : Resource) : Resource :=
  { resource with path := if resource.path = "" then "/" else resource.path }

end Resource

theorem TargetGrammar.isPathByte_ne {b : UInt8} (h : grammar.isPathByte b = true) :
    b ≠ questionMark ∧ b ≠ numberSign := by
  constructor
  · rintro rfl
    cases grammar <;> cases h
  · rintro rfl
    cases grammar <;> cases h

theorem TargetGrammar.isQueryByte_ne {b : UInt8} (h : grammar.isQueryByte b = true) :
    b ≠ numberSign := by
  rintro rfl
  cases grammar <;> cases h

namespace Resource

variable {resource : Resource} {front back : Bytes}

/-- A fragment, with the number sign in front, or nothing. -/
def IsFragment (bytes : Bytes) : Prop :=
  bytes = [] ∨ ∃ more, bytes = numberSign :: more

theorem isFragment_dropWhile (bytes : Bytes) : IsFragment (bytes.dropWhile (· ≠ numberSign)) := by
  rcases dropWhile_cases (· ≠ numberSign) bytes with hNone | ⟨b, more, hSome, hStop⟩
  · exact .inl hNone
  · rw [not_not.mp (of_decide_eq_false hStop)] at hSome
    exact .inr ⟨more, hSome⟩

/-- What stands before a fragment. -/
theorem takeWhile_append_fragment (hFront : ∀ b ∈ front, b ≠ numberSign)
    (hBack : IsFragment back) : (front ++ back).takeWhile (· ≠ numberSign) = front := by
  have hAll : ∀ b ∈ front, decide (b ≠ numberSign) = true := by
    intro b hb
    exact decide_eq_true (hFront b hb)
  rw [List.takeWhile_append_of_pos hAll]
  rcases hBack with rfl | ⟨more, rfl⟩
  · exact List.append_nil front
  · rw [List.takeWhile_cons_of_neg (by decide), List.append_nil]

theorem all_plain (hFront : ∀ b ∈ front, b ≠ questionMark ∧ b ≠ numberSign) :
    ∀ b ∈ front, (b ≠ questionMark && b ≠ numberSign : Bool) = true := by
  intro b hb
  rw [Bool.and_eq_true, decide_eq_true_iff, decide_eq_true_iff]
  exact hFront b hb

/-- A path without a query. -/
theorem read_bare (hFront : ∀ b ∈ front, b ≠ questionMark ∧ b ≠ numberSign)
    (hBack : IsFragment back) (hLength : (front ++ back).length ≤ maxTargetLength) :
    Resource.read grammar (front ++ back) =
      if front.all grammar.isPathByte then
        targetText front >>= fun path => .ok (rooted ⟨path, none⟩)
      else .error .invalidCharacter := by
  have hPlain := all_plain hFront
  unfold Resource.read
  rw [if_neg (Nat.not_lt.mpr hLength), List.takeWhile_append_of_pos hPlain,
    List.dropWhile_append_of_pos hPlain]
  rcases hBack with rfl | ⟨more, rfl⟩
  · rw [List.takeWhile_nil, List.dropWhile_nil, List.append_nil]
    dsimp only
    cases front.all grammar.isPathByte with
    | false => rfl
    | true => cases targetText front <;> rfl
  · rw [List.takeWhile_cons_of_neg (by decide), List.dropWhile_cons_of_neg (by decide),
      List.append_nil]
    dsimp only
    cases front.all grammar.isPathByte with
    | false => rfl
    | true => cases targetText front <;> rfl

/-- A path with a query. -/
theorem read_query {query : Bytes} (hFront : ∀ b ∈ front, b ≠ questionMark ∧ b ≠ numberSign)
    (hQuery : ∀ b ∈ query, b ≠ numberSign) (hBack : IsFragment back)
    (hLength : (front ++ questionMark :: (query ++ back)).length ≤ maxTargetLength) :
    Resource.read grammar (front ++ questionMark :: (query ++ back)) =
      if front.all grammar.isPathByte && query.all grammar.isQueryByte then
        targetText front >>= fun path =>
          targetText query >>= fun query => .ok (rooted ⟨path, some query⟩)
      else .error .invalidCharacter := by
  have hPlain := all_plain hFront
  unfold Resource.read
  rw [if_neg (Nat.not_lt.mpr hLength), List.takeWhile_append_of_pos hPlain,
    List.dropWhile_append_of_pos hPlain, List.takeWhile_cons_of_neg (by decide),
    List.dropWhile_cons_of_neg (by decide), List.append_nil]
  dsimp only
  rw [if_pos rfl, takeWhile_append_fragment hQuery hBack]
  cases front.all grammar.isPathByte with
  | false => rfl
  | true =>
      cases query.all grammar.isQueryByte with
      | false => rfl
      | true =>
          cases targetText front with
          | error fault => rfl
          | ok path => cases targetText query <;> rfl

/-- Bytes are a path, perhaps a query, and perhaps a fragment. -/
theorem exists_parts (bytes : Bytes) :
    ∃ front back, (∀ b ∈ front, b ≠ questionMark ∧ b ≠ numberSign) ∧ IsFragment back ∧
      (bytes = front ++ back ∨
        ∃ query, (∀ b ∈ query, b ≠ numberSign) ∧
          bytes = front ++ questionMark :: (query ++ back)) := by
  let plain := fun b : UInt8 => decide (b ≠ questionMark) && decide (b ≠ numberSign)
  have hFront : ∀ b ∈ bytes.takeWhile plain, b ≠ questionMark ∧ b ≠ numberSign := by
    intro b hb
    have hPlain := List.all_eq_true.mp List.all_takeWhile b hb
    rw [Bool.and_eq_true, decide_eq_true_iff, decide_eq_true_iff] at hPlain
    exact hPlain
  have hSplit : bytes = bytes.takeWhile plain ++ bytes.dropWhile plain :=
    List.takeWhile_append_dropWhile.symm
  rcases dropWhile_cases plain bytes with hNone | ⟨b, more, hSome, hStop⟩
  · exact ⟨_, _, hFront, .inl hNone, .inl hSplit⟩
  · by_cases hQuestion : b = questionMark
    · refine ⟨_, more.dropWhile (· ≠ numberSign), hFront, isFragment_dropWhile more, .inr ?_⟩
      refine ⟨more.takeWhile (· ≠ numberSign), ?_, ?_⟩
      · intro x hx
        exact of_decide_eq_true (List.all_eq_true.mp List.all_takeWhile x hx)
      · rw [List.takeWhile_append_dropWhile, ← hQuestion, ← hSome]
        exact hSplit
    · have hNumber : b = numberSign := by
        rw [Bool.and_eq_false_iff, decide_eq_false_iff_not, decide_eq_false_iff_not] at hStop
        rcases hStop with hStop | hStop
        · exact absurd hQuestion hStop
        · exact not_not.mp hStop
      rw [hNumber] at hSome
      exact ⟨_, _, hFront, .inr ⟨more, hSome⟩, .inl hSplit⟩

theorem ofText_text_some (path query : String) :
    ofText (text ⟨path, some query⟩) = ofText path ++ questionMark :: ofText query := by
  show ofText (path ++ "?" ++ query) = _
  rw [ofText_append, ofText_append, List.append_assoc]
  rfl

/-- No fragment begins within the text of a resource. -/
theorem Admissible.ne_numberSign (h : resource.Admissible grammar) :
    ∀ b ∈ ofText resource.text, b ≠ numberSign := by
  obtain ⟨path, query?⟩ := resource
  intro b hb
  cases query? with
  | none => exact (TargetGrammar.isPathByte_ne (h.path b hb)).2
  | some query =>
      rw [ofText_text_some] at hb
      rcases List.mem_append.mp hb with hb | hb
      · exact (TargetGrammar.isPathByte_ne (h.path b hb)).2
      · rcases List.mem_cons.mp hb with rfl | hb
        · decide
        · exact TargetGrammar.isQueryByte_ne (h.query query rfl b hb)

theorem length_le_of_read {bytes : Bytes} (h : Resource.read grammar bytes = .ok resource) :
    bytes.length ≤ maxTargetLength := by
  by_contra hLong
  unfold Resource.read at h
  rw [if_pos (Nat.not_le.mp hLong)] at h
  cases h

/-- What is read was written with a path, perhaps an empty one, and perhaps a query. -/
theorem exists_written_of_read {bytes : Bytes}
    (h : Resource.read grammar bytes = .ok resource) :
    ∃ written : Resource, written.Admissible grammar ∧
      bytes.takeWhile (· ≠ numberSign) = ofText written.text ∧ resource = written.rooted := by
  have hLength := length_le_of_read h
  obtain ⟨front, back, hFront, hBack, hBytes⟩ := exists_parts bytes
  rcases hBytes with rfl | ⟨query, hQuery, rfl⟩
  · rw [read_bare hFront hBack hLength, guard_eq_ok_iff, bind_eq_ok_iff] at h
    obtain ⟨hPath, path, hFrontText, hResource⟩ := h
    obtain rfl := targetText_eq_ok_iff.mp hFrontText
    have hAdmissible : Admissible grammar ⟨path, none⟩ := ⟨List.all_eq_true.mp hPath, nofun⟩
    refine ⟨_, hAdmissible, ?_, (Except.ok.inj hResource).symm⟩
    exact takeWhile_append_fragment hAdmissible.ne_numberSign hBack
  · rw [read_query hFront hQuery hBack hLength, guard_eq_ok_iff, Bool.and_eq_true,
      bind_eq_ok_iff] at h
    obtain ⟨⟨hPath, hQueryBytes⟩, path, hFrontText, h⟩ := h
    obtain ⟨queryText, hBehindText, hResource⟩ := bind_eq_ok_iff.mp h
    obtain rfl := targetText_eq_ok_iff.mp hFrontText
    obtain rfl := targetText_eq_ok_iff.mp hBehindText
    have hAdmissible : Admissible grammar ⟨path, some queryText⟩ := by
      refine ⟨List.all_eq_true.mp hPath, ?_⟩
      rintro _ ⟨⟩
      exact List.all_eq_true.mp hQueryBytes
    refine ⟨_, hAdmissible, ?_, (Except.ok.inj hResource).symm⟩
    rw [← List.cons_append, ← List.append_assoc, ← ofText_text_some]
    exact takeWhile_append_fragment hAdmissible.ne_numberSign hBack

/-- What the grammar can write is read, with or without a fragment behind it. -/
theorem read_of_admissible {written : Resource} (hAdmissible : written.Admissible grammar)
    (hBack : IsFragment back) (hLength : (ofText written.text ++ back).length ≤ maxTargetLength) :
    Resource.read grammar (ofText written.text ++ back) = .ok written.rooted := by
  obtain ⟨path, query?⟩ := written
  have hFront : ∀ b ∈ ofText path, b ≠ questionMark ∧ b ≠ numberSign := by
    intro b hb
    exact TargetGrammar.isPathByte_ne (hAdmissible.path b hb)
  have hPath : (ofText path).all grammar.isPathByte = true :=
    List.all_eq_true.mpr hAdmissible.path
  cases query? with
  | none =>
      rw [show text ⟨path, none⟩ = path from rfl] at hLength ⊢
      rw [read_bare hFront hBack hLength, guard_eq_ok_iff, bind_eq_ok_iff]
      exact ⟨hPath, path, targetText_eq_ok_iff.mpr rfl, rfl⟩
  | some query =>
      have hQuery : ∀ b ∈ ofText query, b ≠ numberSign := by
        intro b hb
        exact TargetGrammar.isQueryByte_ne (hAdmissible.query query rfl b hb)
      rw [ofText_text_some, List.append_assoc, List.cons_append] at hLength ⊢
      rw [read_query hFront hQuery hBack hLength, guard_eq_ok_iff, Bool.and_eq_true,
        bind_eq_ok_iff]
      refine ⟨⟨hPath, List.all_eq_true.mpr (hAdmissible.query query rfl)⟩, path,
        targetText_eq_ok_iff.mpr rfl, ?_⟩
      exact bind_eq_ok_iff.mpr ⟨query, targetText_eq_ok_iff.mpr rfl, rfl⟩

end Resource

/-! ## Schemes and authorities -/

theorem isSchemeByte_lt {b : UInt8} (h : isSchemeByte b = true) : b < 0x80 := by
  grind [isSchemeByte]

theorem isAuthorityByte_lt {b : UInt8} (h : isAuthorityByte b = true) : b < 0x80 := by
  grind [isAuthorityByte]

/-- Only upper case letters change in lower case, and they become greater than all that is not a
letter. -/
theorem lowerByte_cases (b : UInt8) :
    lowerByte b = b ∨ (isSchemeByte b = true ∧ 0x61 ≤ lowerByte b) := by
  grind [isSchemeByte, lowerByte]

/-- A scheme in any case, and what follows it. -/
theorem exists_of_startsWithAnyCase {bytes : Bytes} (name : String)
    (hName : ∀ b ∈ ofText name, isSchemeByte b = true)
    (h : startsWithAnyCase bytes (name ++ "://") = true) :
    ∃ front, (∀ b ∈ front, isSchemeByte b = true) ∧
      bytes = front ++ ofText "://" ++ bytes.drop (name ++ "://").length := by
  unfold startsWithAnyCase at h
  rw [decide_eq_true_iff, ofText_append, List.map_eq_append_iff] at h
  obtain ⟨front, back, hTake, hFront, hBack⟩ := h
  have hScheme : ∀ b ∈ front, isSchemeByte b = true := by
    intro b hb
    rcases lowerByte_cases b with hSame | hUpper
    · have hMem : lowerByte b ∈ ofText name := by
        rw [← hFront]
        exact List.mem_map_of_mem hb
      rw [hSame] at hMem
      exact hName b hMem
    · exact hUpper.1
  have hSame : back = ofText "://" := by
    have hLow : (ofText "://").all (· < 0x61) = true := rfl
    have hFixed : ∀ b ∈ back, lowerByte b = b := by
      intro b hb
      rcases lowerByte_cases b with hSame | hUpper
      · exact hSame
      · have hMem : lowerByte b ∈ ofText "://" := by
          rw [← hBack]
          exact List.mem_map_of_mem hb
        have hLess := of_decide_eq_true (List.all_eq_true.mp hLow (lowerByte b) hMem)
        exact absurd hUpper.2 (UInt8.not_le.mpr hLess)
    rw [← hBack, List.map_congr_left hFixed, List.map_id']
  refine ⟨front, hScheme, ?_⟩
  rw [← hSame, ← hTake, List.take_append_drop]

/-- An authority takes nothing but ASCII. -/
theorem AuthorityScan.step_lt {scan next : AuthorityScan} {b : UInt8}
    (h : scan.step b = .ok next) : b < 0x80 := by
  grind [AuthorityScan.step, isAuthorityByte_lt]

theorem AuthorityScan.lt_of_foldlM {scan next : AuthorityScan} {bytes : Bytes}
    (h : bytes.foldlM AuthorityScan.step scan = .ok next) : ∀ b ∈ bytes, b < 0x80 := by
  induction bytes generalizing scan with
  | nil => exact nofun
  | cons b bytes ih =>
      rw [List.foldlM_cons] at h
      obtain ⟨following, hStep, hRest⟩ := bind_eq_ok_iff.mp h
      intro x hx
      rcases List.mem_cons.mp hx with rfl | hx
      · exact step_lt hStep
      · exact ih hRest x hx

/-- What begins behind an authority, if anything does. -/
def IsBehind (bytes : Bytes) : Prop :=
  bytes = [] ∨ ∃ b more, bytes = b :: more ∧ endsAuthority b = true

/-- An authority is ASCII, and ends where it has to. -/
theorem readAuthority_eq_ok {bytes host rest : Bytes}
    (h : readAuthority bytes = .ok (host, rest)) :
    bytes = host ++ rest ∧ (∀ b ∈ host, b < 0x80 ∧ endsAuthority b = false) ∧ IsBehind rest := by
  unfold readAuthority at h
  obtain ⟨scan, hScan, h⟩ := bind_eq_ok_iff.mp h
  obtain ⟨-, hParts⟩ := guard_eq_ok_iff.mp h
  cases hParts
  refine ⟨List.takeWhile_append_dropWhile.symm, ?_, ?_⟩
  · intro b hb
    refine ⟨AuthorityScan.lt_of_foldlM hScan b hb, ?_⟩
    have hInside := List.all_eq_true.mp List.all_takeWhile b hb
    rw [Bool.not_eq_true'] at hInside
    exact hInside
  · rcases dropWhile_cases (!endsAuthority ·) bytes with hNone | ⟨b, more, hSome, hStop⟩
    · exact .inl hNone
    · rw [Bool.not_eq_false'] at hStop
      exact .inr ⟨b, more, hSome, hStop⟩

/-- A scheme, if there is one, stands in front of its separator, and the rest behind it. -/
theorem readScheme_eq_ok {bytes rest : Bytes} {scheme? : Option Scheme}
    (h : readScheme bytes = .ok (scheme?, rest)) :
    (scheme? = none ∧ rest = bytes) ∨
      ∃ scheme front, scheme? = some scheme ∧ (∀ b ∈ front, isSchemeByte b = true) ∧
        bytes = front ++ ofText "://" ++ rest := by
  unfold readScheme at h
  split at h
  case isTrue hHttp =>
    obtain ⟨front, hFront, hBytes⟩ :=
      exists_of_startsWithAnyCase "http" (List.all_eq_true.mp rfl) hHttp
    cases h
    exact .inr ⟨_, front, rfl, hFront, hBytes⟩
  case isFalse =>
    split at h
    case isTrue hHttps =>
      obtain ⟨front, hFront, hBytes⟩ :=
        exists_of_startsWithAnyCase "https" (List.all_eq_true.mp rfl) hHttps
      cases h
      exact .inr ⟨_, front, rfl, hFront, hBytes⟩
    case isFalse =>
      dsimp only at h
      split at h
      case isTrue hOther =>
        split at h
        case isTrue => cases h
        case isFalse =>
          cases h
          rw [Bool.and_eq_true, decide_eq_true_iff, decide_eq_true_iff] at hOther
          refine .inr ⟨_, bytes.takeWhile isSchemeByte, rfl,
            List.all_eq_true.mp List.all_takeWhile, ?_⟩
          rw [← hOther.2, List.append_assoc, List.take_append_drop,
            List.takeWhile_append_dropWhile]
      case isFalse =>
        cases h
        exact .inl ⟨rfl, rfl⟩

/-! ## The forms of targets -/

/-- How bytes are read as a target. -/
inductive Target.Form (grammar : TargetGrammar) : Bytes → Target → Prop
  | asterisk : Form grammar [0x2A] (.origin ⟨"*", none⟩)
  | origin {rest : Bytes} {resource : Resource}
      (hRead : Resource.read grammar (0x2F :: rest) = .ok resource) :
      Form grammar (0x2F :: rest) (.origin resource)
  | absolute {front host rest : Bytes} {scheme : Scheme} {authority : String} {resource : Resource}
      (hScheme : ∀ b ∈ front, isSchemeByte b = true)
      (hHost : ∀ b ∈ host, b < 0x80 ∧ endsAuthority b = false) (hBehind : IsBehind rest)
      (hRead : Resource.read grammar rest = .ok resource) :
      Form grammar (front ++ ofText "://" ++ (host ++ rest)) (.absolute scheme authority resource)
  | authority {host : Bytes} {text : String} (hHost : ∀ b ∈ host, endsAuthority b = false)
      (hNot : host ≠ [0x2A]) : Form grammar host (.authority text)

namespace Target

variable {bytes : Bytes} {target : Target}

theorem form_of_readByte {b : UInt8} (h : readByte b = .ok target) : Form grammar [b] target := by
  unfold readByte at h
  split at h
  case isTrue hSlash =>
    cases h
    rw [hSlash]
    refine .origin ?_
    cases grammar <;> rfl
  case isFalse =>
    split at h
    case isTrue hAsterisk =>
      cases h
      rw [hAsterisk]
      exact .asterisk
    case isFalse hNot =>
      obtain ⟨⟨host, rest⟩, hAuthority, h⟩ := bind_eq_ok_iff.mp h
      obtain ⟨hSplit, hHost, -⟩ := readAuthority_eq_ok hAuthority
      obtain ⟨hEmpty, hTarget⟩ := guard_eq_ok_iff.mp h
      cases hTarget
      have hWhole : [b] = host := by
        rw [hSplit, List.isEmpty_iff.mp hEmpty, List.append_nil]
      rw [hWhole]
      refine .authority (fun x hx => (hHost x hx).2) ?_
      rw [← hWhole]
      intro hSame
      exact hNot (List.singleton_inj.mp hSame)

theorem form_of_readAddress (hNot : bytes ≠ [0x2A]) (h : readAddress grammar bytes = .ok target) :
    Form grammar bytes target := by
  unfold readAddress at h
  obtain ⟨⟨scheme?, behind⟩, hScheme, h⟩ := bind_eq_ok_iff.mp h
  change (if behind.isEmpty then _ else _) = _ at h
  split at h
  case isTrue => cases h
  case isFalse =>
    obtain ⟨⟨host, rest⟩, hAuthority, hRest⟩ := bind_eq_ok_iff.mp h
    obtain ⟨rfl, hHost, hBehind⟩ := readAuthority_eq_ok hAuthority
    rcases readScheme_eq_ok hScheme with ⟨rfl, hBytes⟩ | ⟨scheme, front, rfl, hFront, hBytes⟩
    · obtain ⟨hEmpty, hTarget⟩ := guard_eq_ok_iff.mp hRest
      cases hTarget
      rw [List.isEmpty_iff.mp hEmpty, List.append_nil] at hBytes
      rw [← hBytes] at hNot ⊢
      exact .authority (fun x hx => (hHost x hx).2) hNot
    · change (if host.isEmpty then _ else _) = _ at hRest
      split at hRest
      case isTrue => cases hRest
      case isFalse =>
        obtain ⟨resource, hRead, hTarget⟩ := bind_eq_ok_iff.mp hRest
        cases hTarget
        rw [hBytes]
        exact .absolute hFront hHost hBehind hRead

/-- Every target is read in one of the four forms. -/
theorem form_of_read (h : read grammar bytes = .ok target) :
    bytes.length ≤ maxTargetLength ∧ Form grammar bytes target := by
  unfold read at h
  split at h
  case isTrue => cases h
  case isFalse hLength =>
    refine ⟨Nat.not_lt.mp hLength, ?_⟩
    match bytes with
    | [] => cases h
    | [b] => exact form_of_readByte h
    | b :: second :: rest =>
        change (if b = 0x2F then _ else _) = _ at h
        split at h
        case isTrue hSlash =>
          subst hSlash
          cases hRead : Resource.read grammar (0x2F :: second :: rest) with
          | error fault =>
              rw [hRead] at h
              cases h
          | ok resource =>
              rw [hRead] at h
              cases h
              exact .origin hRead
        case isFalse =>
          refine form_of_readAddress ?_ h
          intro hSingle
          cases hSingle

/-- Bytes that begin with a slash are read as a resource. -/
theorem read_of_slash (rest : Bytes) :
    read grammar (0x2F :: rest) = (Resource.read grammar (0x2F :: rest)).map .origin := by
  by_cases hLong : (0x2F :: rest).length > maxTargetLength
  · have hRead : Resource.read grammar (0x2F :: rest) = .error .tooLong := by
      unfold Resource.read
      rw [if_pos hLong]
      rfl
    unfold read
    rw [if_pos hLong, hRead]
    rfl
  · unfold read
    rw [if_neg hLong]
    cases rest with
    | nil => cases grammar <;> rfl
    | cons b rest => exact if_pos rfl

end Target

end CanisterGateway.Http
