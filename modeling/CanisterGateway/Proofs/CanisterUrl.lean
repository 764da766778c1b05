import CanisterGateway.Canister.Message
import CanisterGateway.Proofs.HeaderGroups
import CanisterGateway.Proofs.TargetForms

/-!
# The URL that a canister sees

The URL of a canister's request is the path and query of the target. Here it is told from the text
of the target alone: which part of the text it is, and that it says the same when it is read again,
by the gateway or by verification.

Targets are read from bytes, and what is said here is said about characters. All delimiters are
ASCII, so the one is the other.

## Main results

* `Locates.unique` — a text has one URL.
* `Target.Form.locates` — what is read from a text is what its URL names.
* `canister_url_round_trip` — URLs of requests, and the requests that are built from them.
-/

namespace CanisterGateway.Http

open Bytes (ofText)
open Bytes.Utf8 (encode exists_of_ofText_eq_append head?_of_ofText mem_ofText_iff ofText_append
  ofText_injective)

variable {grammar : TargetGrammar}

/-! ## Texts -/

/-- Where the first stop is, what stands before it can be told from what stands behind. -/
theorem append_inj_of_stop {β : Type} {stop : β → Bool} {first second more other : List β}
    (hFirst : ∀ x ∈ first, stop x = false) (hSecond : ∀ x ∈ second, stop x = false)
    (hMore : ∀ x ∈ more.head?, stop x = true) (hOther : ∀ x ∈ other.head?, stop x = true)
    (h : first ++ more = second ++ other) : first = second ∧ more = other := by
  induction first generalizing second with
  | nil =>
      cases second with
      | nil => exact ⟨rfl, h⟩
      | cons x second =>
          have hHead : x ∈ more.head? := by
            rw [← List.nil_append more, h]
            rfl
          have hFalse := hSecond x List.mem_cons_self
          rw [hMore x hHead] at hFalse
          cases hFalse
  | cons x first ih =>
      cases second with
      | nil =>
          have hHead : x ∈ other.head? := by
            rw [← List.nil_append other, ← h]
            rfl
          have hFalse := hFirst x List.mem_cons_self
          rw [hOther x hHead] at hFalse
          cases hFalse
      | cons y second =>
          obtain ⟨rfl, hRest⟩ := List.cons.inj h
          obtain ⟨rfl, hMore⟩ := ih (fun z hz => hFirst z (List.mem_cons_of_mem x hz))
            (fun z hz => hSecond z (List.mem_cons_of_mem x hz)) hRest
          exact ⟨rfl, hMore⟩

theorem decide_eq_false_of_notMem {β : Type} [DecidableEq β] {stop : β} {list : List β}
    (h : stop ∉ list) : ∀ x ∈ list, decide (x = stop) = false := by
  intro x hx
  apply decide_eq_false
  rintro rfl
  exact h hx

/-- A text up to its fragment. -/
def beforeFragment (text : String) : String :=
  String.ofList (text.toList.takeWhile (· ≠ '#'))

/-- A path and query, with a slash in front if there is no path. -/
def withRoot (kept : String) : String :=
  if kept.toList.head? = none ∨ kept.toList.head? = some '?' then "/" ++ kept else kept

/-- Whether the character ends an authority. -/
def isDelimiter (c : Char) : Bool :=
  c = '/' || c = '?' || c = '#'

/-- The URL of a target that is written in one of the forms with a path. -/
inductive Locates : String → String → Prop
  | asterisk : Locates "*" "*"
  | origin {text : String} (hSlash : text.toList.head? = some '/') :
    Locates text (beforeFragment text)
  | absolute {scheme authority rest : String}
      (hScheme : ':' ∉ scheme.toList ∧ '/' ∉ scheme.toList)
      (hAuthority : ∀ c ∈ authority.toList, isDelimiter c = false)
      (hRest : ∀ c ∈ rest.toList.head?, isDelimiter c = true) :
    Locates (scheme ++ "://" ++ (authority ++ rest)) (withRoot (beforeFragment rest))

theorem head?_beforeFragment_iff {text : String} {c : Char} :
    (beforeFragment text).toList.head? = some c ↔ text.toList.head? = some c ∧ c ≠ '#' := by
  unfold beforeFragment
  rw [String.toList_ofList]
  cases text.toList with
  | nil => exact ⟨nofun, nofun⟩
  | cons first more =>
      by_cases hFirst : first = '#'
      · rw [List.takeWhile_cons_of_neg (by simpa using hFirst)]
        refine ⟨nofun, ?_⟩
        rintro ⟨hHead, hNot⟩
        cases hHead
        exact absurd hFirst hNot
      · rw [List.takeWhile_cons_of_pos (by simpa using hFirst)]
        constructor
        · rintro ⟨⟩
          exact ⟨rfl, hFirst⟩
        · rintro ⟨⟨⟩, -⟩
          rfl

theorem head?_withRoot {kept : String}
    (h : ∀ c ∈ kept.toList.head?, c = '/' ∨ c = '?') : (withRoot kept).toList.head? = some '/' := by
  unfold withRoot
  split
  case isTrue =>
    rw [String.toList_append]
    rfl
  case isFalse hNot =>
    rw [not_or] at hNot
    cases hHead : kept.toList.head? with
    | none => exact absurd hHead hNot.1
    | some c =>
        rcases h c hHead with rfl | rfl
        · rfl
        · exact absurd hHead hNot.2

theorem withRoot_of_slash {kept : String} (h : kept.toList.head? = some '/') :
    withRoot kept = kept := by
  unfold withRoot
  rw [h, if_neg (by decide)]

theorem ofText_beforeFragment (text : String) :
    ofText (beforeFragment text) = (ofText text).takeWhile (· ≠ numberSign) := by
  have hStop : String.utf8EncodeChar '#' = [numberSign] := rfl
  unfold ofText beforeFragment
  rw [String.toList_ofList]
  exact (Bytes.Utf8.takeWhile_encode hStop (by decide) text.toList).symm

namespace Resource

variable {resource : Resource}

/-- The characters behind a path. -/
def queryTail : Option String → List Char
  | none => []
  | some query => '?' :: query.toList

theorem toList_text (path : String) (query? : Option String) :
    (text ⟨path, query?⟩).toList = path.toList ++ queryTail query? := by
  cases query? with
  | none => exact (List.append_nil path.toList).symm
  | some query =>
      show (path ++ "?" ++ query).toList = _
      rw [String.toList_append, String.toList_append, List.append_assoc]
      rfl

theorem queryTail_injective {first second : Option String}
    (h : queryTail first = queryTail second) : first = second := by
  cases first with
  | none =>
      cases second with
      | none => rfl
      | some query => cases h
  | some query =>
      cases second with
      | none => cases h
      | some other => rw [String.toList_injective (List.cons.inj h).2]

theorem Admissible.questionMark_notMem (h : resource.Admissible grammar) :
    '?' ∉ resource.path.toList := by
  intro hMem
  have hByte : questionMark ∈ ofText resource.path :=
    (mem_ofText_iff rfl (by decide)).mpr hMem
  exact (TargetGrammar.isPathByte_ne (h.path _ hByte)).1 rfl

theorem Admissible.rooted (h : resource.Admissible grammar) :
    resource.rooted.Admissible grammar := by
  refine ⟨?_, h.query⟩
  unfold Resource.rooted
  split
  case isTrue =>
    show ∀ b ∈ ofText "/", grammar.isPathByte b = true
    cases grammar <;> exact List.all_eq_true.mp rfl
  case isFalse => exact h.path

theorem rooted_rooted (resource : Resource) : resource.rooted.rooted = resource.rooted := by
  unfold rooted
  by_cases hPath : resource.path = ""
  · rw [if_pos hPath]
    rfl
  · rw [if_neg hPath, if_neg hPath]

/-- The text of a path and query tells both, and also an empty query from none. -/
theorem text_injective {first second : Resource} (hFirst : '?' ∉ first.path.toList)
    (hSecond : '?' ∉ second.path.toList) (h : first.text = second.text) : first = second := by
  obtain ⟨path, query?⟩ := first
  obtain ⟨otherPath, otherQuery?⟩ := second
  have hChars := congrArg String.toList h
  rw [toList_text, toList_text] at hChars
  have hStop : ∀ query?, ∀ c ∈ (queryTail query?).head?, decide (c = '?') = true := by
    rintro (_ | query) c hc
    · cases hc
    · cases hc
      rfl
  obtain ⟨hPath, hQuery⟩ := append_inj_of_stop (decide_eq_false_of_notMem hFirst)
    (decide_eq_false_of_notMem hSecond) (hStop query?) (hStop otherQuery?) hChars
  have hSame : path = otherPath := String.toList_injective hPath
  rw [hSame, queryTail_injective hQuery]

theorem questionMark_mem_text_iff (hPath : '?' ∉ resource.path.toList) :
    '?' ∈ resource.text.toList ↔ resource.query?.isSome = true := by
  obtain ⟨path, query?⟩ := resource
  rw [toList_text, List.mem_append]
  cases query? with
  | none => simpa [queryTail] using hPath
  | some query => simp [queryTail]

theorem Admissible.text_rooted (h : resource.Admissible grammar) :
    resource.rooted.text = withRoot resource.text := by
  have hNot := h.questionMark_notMem
  obtain ⟨path, query?⟩ := resource
  unfold withRoot
  rw [toList_text]
  by_cases hPath : path = ""
  · subst hPath
    rw [if_pos]
    · apply String.toList_injective
      show (text ⟨"/", query?⟩).toList = ("/" ++ text ⟨"", query?⟩).toList
      rw [String.toList_append, toList_text, toList_text]
      rfl
    · cases query? with
      | none => exact .inl rfl
      | some query => exact .inr rfl
  · have hRooted : Resource.rooted ⟨path, query?⟩ = ⟨path, query?⟩ := by
      unfold Resource.rooted
      rw [if_neg hPath]
    rw [hRooted, if_neg]
    cases hChars : path.toList with
    | nil => exact absurd (String.toList_eq_nil_iff.mp hChars) hPath
    | cons c more =>
        rw [hChars] at hNot
        rintro (hNone | hSome)
        · cases hNone
        · cases hSome
          exact hNot List.mem_cons_self

/-- A resource with a path means what it says. -/
theorem Admissible.read_text (h : resource.Admissible grammar)
    (hRooted : resource.rooted = resource)
    (hLength : (ofText resource.text).length ≤ maxTargetLength) :
    Resource.read grammar (ofText resource.text) = .ok resource := by
  have hRead := read_of_admissible h (.inl rfl) ((List.append_nil _).symm ▸ hLength)
  rw [List.append_nil, hRooted] at hRead
  exact hRead

/-- Who reads the text of a resource, in whatever grammar, reads that resource. -/
theorem Admissible.eq_of_read_text {other : TargetGrammar} {again : Resource}
    (h : resource.Admissible grammar) (hRooted : resource.rooted = resource)
    (hRead : Resource.read other (ofText resource.text) = .ok again) : again = resource := by
  obtain ⟨written, hWritten, hText, rfl⟩ := exists_written_of_read hRead
  have hKept : (ofText resource.text ++ []).takeWhile (· ≠ numberSign) = ofText resource.text :=
    takeWhile_append_fragment h.ne_numberSign (.inl rfl)
  rw [List.append_nil] at hKept
  rw [hKept] at hText
  have hSame : resource = written :=
    text_injective h.questionMark_notMem hWritten.questionMark_notMem
      (ofText_injective hText)
  rw [← hSame, hRooted]

end Resource

namespace Locates

variable {text url other again : String}

theorem absolute_toList (scheme authority rest : String) :
    (scheme ++ "://" ++ (authority ++ rest)).toList =
      scheme.toList ++ ':' :: ('/' :: '/' :: (authority.toList ++ rest.toList)) := by
  rw [String.toList_append, String.toList_append, String.toList_append, List.append_assoc]
  rfl

theorem head?_absolute_ne {scheme : String} (hScheme : '/' ∉ scheme.toList)
    (authority rest : String) :
    (scheme ++ "://" ++ (authority ++ rest)).toList.head? ≠ some '/' := by
  rw [absolute_toList]
  cases hChars : scheme.toList with
  | nil => exact nofun
  | cons c more =>
      rintro ⟨⟩
      rw [hChars] at hScheme
      exact hScheme List.mem_cons_self

theorem colon_mem_absolute (scheme authority rest : String) :
    ':' ∈ (scheme ++ "://" ++ (authority ++ rest)).toList := by
  rw [absolute_toList]
  exact List.mem_append_right _ List.mem_cons_self

/-- The parts of an absolute address are where its delimiters say. -/
theorem absolute_inj {scheme authority rest scheme' authority' rest' : String}
    (hScheme : ':' ∉ scheme.toList) (hScheme' : ':' ∉ scheme'.toList)
    (hAuthority : ∀ c ∈ authority.toList, isDelimiter c = false)
    (hAuthority' : ∀ c ∈ authority'.toList, isDelimiter c = false)
    (hRest : ∀ c ∈ rest.toList.head?, isDelimiter c = true)
    (hRest' : ∀ c ∈ rest'.toList.head?, isDelimiter c = true)
    (h : scheme ++ "://" ++ (authority ++ rest) = scheme' ++ "://" ++ (authority' ++ rest')) :
    rest = rest' := by
  have hChars := congrArg String.toList h
  rw [absolute_toList, absolute_toList] at hChars
  have hColon : ∀ more : List Char, ∀ c ∈ (':' :: more).head?, decide (c = ':') = true := by
    rintro more c ⟨⟩
    rfl
  have hBehind := (append_inj_of_stop (decide_eq_false_of_notMem hScheme)
    (decide_eq_false_of_notMem hScheme') (hColon _) (hColon _) hChars).2
  simp only [List.cons.injEq, true_and] at hBehind
  exact String.toList_injective
    (append_inj_of_stop hAuthority hAuthority' hRest hRest' hBehind).2

/-- A text has one URL. -/
theorem unique (h : Locates text url) (hOther : Locates other again) (hSame : text = other) :
    url = again := by
  cases h with
  | asterisk =>
      cases hOther with
      | asterisk => rfl
      | origin hSlash =>
          rw [← hSame] at hSlash
          exact absurd hSlash (by decide)
      | @absolute scheme authority rest hScheme hAuthority hRest =>
          have hColon := colon_mem_absolute scheme authority rest
          rw [← hSame] at hColon
          exact absurd hColon (by decide)
  | origin hSlash =>
      cases hOther with
      | asterisk =>
          rw [hSame] at hSlash
          exact absurd hSlash (by decide)
      | origin hSlash' => rw [hSame]
      | @absolute scheme authority rest hScheme hAuthority hRest =>
          rw [hSame] at hSlash
          exact absurd hSlash (head?_absolute_ne hScheme.2 authority rest)
  | @absolute scheme authority rest hScheme hAuthority hRest =>
      cases hOther with
      | asterisk =>
          have hColon := colon_mem_absolute scheme authority rest
          rw [hSame] at hColon
          exact absurd hColon (by decide)
      | origin hSlash =>
          rw [← hSame] at hSlash
          exact absurd hSlash (head?_absolute_ne hScheme.2 authority rest)
      | absolute hScheme' hAuthority' hRest' =>
          rw [absolute_inj hScheme.1 hScheme'.1 hAuthority hAuthority' hRest hRest' hSame]

/-- A URL begins with a slash, unless it is an asterisk. -/
theorem slash (h : Locates text url) : url = "*" ∨ url.toList.head? = some '/' := by
  cases h with
  | asterisk => exact .inl rfl
  | origin hSlash => exact .inr (head?_beforeFragment_iff.mpr ⟨hSlash, by decide⟩)
  | @absolute scheme authority rest hScheme hAuthority hRest =>
      refine .inr (head?_withRoot ?_)
      intro c hc
      obtain ⟨hHead, hNumber⟩ := head?_beforeFragment_iff.mp hc
      have hDelimiter := hRest c hHead
      simp only [isDelimiter, Bool.or_eq_true, decide_eq_true_iff, hNumber, or_false] at hDelimiter
      exact hDelimiter

/-- A URL is not longer than the text that it is from. -/
theorem length_le (h : Locates text url) : (ofText url).length ≤ (ofText text).length := by
  have hKept : ∀ text, (ofText (beforeFragment text)).length ≤ (ofText text).length := by
    intro text
    rw [ofText_beforeFragment]
    exact (List.takeWhile_sublist _).length_le
  cases h with
  | asterisk => exact le_refl _
  | origin hSlash => exact hKept text
  | @absolute scheme authority rest hScheme hAuthority hRest =>
      have hRoot : (ofText (withRoot (beforeFragment rest))).length ≤
          1 + (ofText (beforeFragment rest)).length := by
        unfold withRoot
        split
        case isTrue =>
          rw [ofText_append, List.length_append]
          exact le_refl _
        case isFalse => omega
      have hRest := hKept rest
      have hThree : (ofText "://").length = 3 := rfl
      rw [ofText_append, ofText_append, ofText_append,
        List.length_append, List.length_append, List.length_append, hThree]
      omega

end Locates

namespace Target

/-- The path and query of a target. -/
def resource (target : Target) : Resource :=
  ⟨target.path, target.query?⟩

theorem exists_char_of_endsAuthority {b : UInt8} (h : endsAuthority b = true) :
    ∃ c, String.utf8EncodeChar c = [b] ∧ b < 0x80 ∧ isDelimiter c = true := by
  unfold endsAuthority at h
  rw [Bool.or_eq_true, Bool.or_eq_true, decide_eq_true_iff, decide_eq_true_iff,
    decide_eq_true_iff] at h
  rcases h with (rfl | rfl) | rfl
  · exact ⟨'/', rfl, by decide, rfl⟩
  · exact ⟨'?', rfl, by decide, rfl⟩
  · exact ⟨'#', rfl, by decide, rfl⟩

theorem exists_byte_of_isDelimiter {c : Char} (h : isDelimiter c = true) :
    ∃ b, String.utf8EncodeChar c = [b] ∧ b < 0x80 ∧ endsAuthority b = true := by
  unfold isDelimiter at h
  rw [Bool.or_eq_true, Bool.or_eq_true, decide_eq_true_iff, decide_eq_true_iff,
    decide_eq_true_iff] at h
  rcases h with (rfl | rfl) | rfl
  · exact ⟨0x2F, rfl, by decide, by decide⟩
  · exact ⟨questionMark, rfl, by decide, by decide⟩
  · exact ⟨numberSign, rfl, by decide, by decide⟩

theorem isDelimiter_of_isBehind {text : String} (h : IsBehind (ofText text)) :
    ∀ c ∈ text.toList.head?, isDelimiter c = true := by
  intro c hc
  rcases h with hNone | ⟨b, more, hSome, hEnds⟩
  · rw [show text = "" from ofText_injective hNone] at hc
    cases hc
  · obtain ⟨first, hChar, hLow, hDelimiter⟩ := exists_char_of_endsAuthority hEnds
    rw [head?_of_ofText hChar hLow hSome] at hc
    cases hc
    exact hDelimiter

theorem isDelimiter_of_endsAuthority {text : String}
    (h : ∀ b ∈ ofText text, endsAuthority b = false) :
    ∀ c ∈ text.toList, isDelimiter c = false := by
  intro c hc
  by_contra hDelimiter
  rw [Bool.not_eq_false] at hDelimiter
  obtain ⟨b, hChar, hLow, hEnds⟩ := exists_byte_of_isDelimiter hDelimiter
  rw [h b ((mem_ofText_iff hChar hLow).mpr hc)] at hEnds
  cases hEnds

/-- The resource that is read from a text has that text, up to the fragment and the root. -/
theorem resource_of_read {text : String} {resource : Resource}
    (hRead : Resource.read grammar (ofText text) = .ok resource) :
    ∃ written : Resource, written.Admissible grammar ∧ resource = written.rooted ∧
      resource.text = withRoot (beforeFragment text) := by
  obtain ⟨written, hAdmissible, hText, rfl⟩ := Resource.exists_written_of_read hRead
  rw [← ofText_beforeFragment] at hText
  refine ⟨written, hAdmissible, rfl, ?_⟩
  rw [hAdmissible.text_rooted, ofText_injective hText]

/-- **What is read from a text is what its URL names.** Only an authority alone has no URL. -/
theorem Form.locates {text : String} {target : Target} (h : Form grammar (ofText text) target) :
    (Locates text target.resource.text ∧
      ∃ written : Resource, written.Admissible grammar ∧ target.resource = written.rooted) ∨
      ((∃ host, target = .authority host) ∧ ∀ url, ¬ Locates text url) := by
  generalize hBytes : ofText text = bytes at h
  cases h with
  | asterisk =>
      rw [show text = "*" from ofText_injective hBytes]
      have hAdmissible : Resource.Admissible grammar ⟨"*", none⟩ := by
        refine ⟨?_, nofun⟩
        cases grammar <;> exact List.all_eq_true.mp rfl
      exact .inl ⟨.asterisk, _, hAdmissible, rfl⟩
  | @origin rest resource hRead =>
      have hSlash := head?_of_ofText (c := '/') rfl (by decide) hBytes
      rw [← hBytes] at hRead
      obtain ⟨written, hAdmissible, hRooted, hText⟩ := resource_of_read hRead
      rw [withRoot_of_slash (head?_beforeFragment_iff.mpr ⟨hSlash, by decide⟩)] at hText
      refine .inl ⟨?_, written, hAdmissible, hRooted⟩
      show Locates text resource.text
      rw [hText]
      exact .origin hSlash
  | @absolute front host rest scheme authority resource hScheme hHost hBehind hRead =>
      have hAscii : (ofText "://").all (· < 0x80) = true := rfl
      have hLow : ∀ b ∈ front ++ ofText "://", b < 0x80 := by
        intro b hb
        rcases List.mem_append.mp hb with hb | hb
        · exact isSchemeByte_lt (hScheme b hb)
        · exact of_decide_eq_true (List.all_eq_true.mp hAscii b hb)
      obtain ⟨address, behind, rfl, hAddress, hBack⟩ := exists_of_ofText_eq_append hBytes hLow
      obtain ⟨schemeText, separator, rfl, rfl, hSeparator⟩ := exists_of_ofText_eq_append hAddress
        (fun b hb => isSchemeByte_lt (hScheme b hb))
      obtain ⟨authorityText, restText, rfl, rfl, rfl⟩ := exists_of_ofText_eq_append hBack
        (fun b hb => (hHost b hb).1)
      rw [ofText_injective hSeparator]
      obtain ⟨written, hAdmissible, hRooted, hText⟩ := resource_of_read hRead
      refine .inl ⟨?_, written, hAdmissible, hRooted⟩
      show Locates _ resource.text
      rw [hText]
      refine .absolute ⟨?_, ?_⟩ ?_ ?_
      · intro hColon
        cases hScheme 0x3A ((mem_ofText_iff rfl (by decide)).mpr hColon)
      · intro hSlash
        cases hScheme 0x2F ((mem_ofText_iff rfl (by decide)).mpr hSlash)
      · exact isDelimiter_of_endsAuthority fun b hb => (hHost b hb).2
      · exact isDelimiter_of_isBehind hBehind
  | @authority host authority hHost hNot =>
      rw [← hBytes] at hHost hNot
      have hPlain := isDelimiter_of_endsAuthority hHost
      refine .inr ⟨⟨authority, rfl⟩, ?_⟩
      intro url hLocates
      cases hLocates with
      | asterisk => exact hNot rfl
      | origin hSlash => cases hPlain '/' (List.mem_of_mem_head? hSlash)
      | @absolute scheme authority rest hScheme hAuthority hRest =>
          have hSlash : '/' ∈ (scheme ++ "://" ++ (authority ++ rest)).toList := by
            rw [Locates.absolute_toList]
            exact List.mem_append_right _ (List.mem_cons_of_mem _ List.mem_cons_self)
          cases hPlain '/' hSlash

theorem read_of_head? {text : String} (h : text.toList.head? = some '/') :
    read grammar (ofText text) = (Resource.read grammar (ofText text)).map .origin := by
  obtain ⟨more, hMore⟩ := List.head?_eq_some_iff.mp h
  have hBytes : ofText text = 0x2F :: encode more := by
    rw [ofText, hMore]
    rfl
  rw [hBytes]
  exact read_of_slash (encode more)

/-- The URL of a target is read as the path and query that the target names, by whoever can read
it. -/
theorem read_resource_text {text url : String} {target : Target}
    (hRead : read grammar (ofText text) = .ok target) (hLocates : Locates text url) :
    target.resource.text = url ∧ '?' ∉ target.resource.path.toList ∧
      read grammar (ofText url) = .ok (.origin target.resource) ∧
      ∀ other again, read other (ofText url) = .ok again → again = .origin target.resource := by
  obtain ⟨hLength, hForm⟩ := form_of_read hRead
  rcases hForm.locates with ⟨hText, written, hWritten, hRooted⟩ | ⟨-, hNowhere⟩
  · have hUrl := hText.unique hLocates rfl
    have hAdmissible : target.resource.Admissible grammar := by
      rw [hRooted]
      exact hWritten.rooted
    have hWhole : target.resource.rooted = target.resource := by
      rw [hRooted]
      exact written.rooted_rooted
    have hShort := hLocates.length_le.trans hLength
    have hPath := hAdmissible.questionMark_notMem
    rw [← hUrl] at hShort ⊢
    rcases hText.slash with hAsterisk | hSlash
    · have hSame : target.resource = ⟨"*", none⟩ :=
        Resource.text_injective hPath (by decide) hAsterisk
      rw [hSame]
      refine ⟨rfl, by decide, ?_, ?_⟩
      · cases grammar <;> rfl
      · intro other again hAgain
        cases other <;> exact (Except.ok.inj hAgain).symm
    · refine ⟨rfl, hPath, ?_, ?_⟩
      · rw [read_of_head? hSlash, hAdmissible.read_text hWhole hShort]
        rfl
      · intro other again hAgain
        rw [read_of_head? hSlash] at hAgain
        cases hResource : Resource.read other (ofText target.resource.text) with
        | error fault =>
            rw [hResource] at hAgain
            cases hAgain
        | ok found =>
            rw [hResource] at hAgain
            cases hAgain
            rw [hAdmissible.eq_of_read_text hWhole hResource]
  · exact absurd hLocates (hNowhere url)

/-- No path that is read contains a question mark. -/
theorem questionMark_notMem_path {text : String} {target : Target}
    (hRead : read grammar (ofText text) = .ok target) : '?' ∉ target.resource.path.toList := by
  rcases (form_of_read hRead).2.locates with ⟨-, written, hWritten, hRooted⟩ | ⟨⟨host, rfl⟩, -⟩
  · rw [hRooted]
    exact hWritten.rooted.questionMark_notMem
  · exact List.not_mem_nil

end Target

/--
**The URL that a canister sees means the resource that was asked for.** A request is built from a
text. The URL in it is

* the text up to its fragment, if the text begins with a slash;
* what follows the authority, up to the fragment, if the text is an absolute address. If there is no
  path, a slash is put in its place;
* an asterisk, if the text is one.

There is no other text that a request is built from but an authority alone. In each of these forms,
a request can be built from the URL in place of the text: it has the same path and query, and the
same URL. Who reads the URL in the older grammar, as verification does, finds this path and query in
it as well, if anything. A query is in the URL exactly if there is one, even if it is empty, and
requests with different paths or queries have different URLs.
-/
theorem canister_url_round_trip {method text : String} {fields : List RawField} {body : Bytes}
    {request : Request} (hBuild : Request.build method (ofText text) fields body = .ok request)
    (version : UInt16) :
    let url := (Canister.Request.ofHttp request version).url
    let resource : Resource := ⟨request.target.path, request.target.query?⟩
    let again : Request := { request with target := .origin resource }
    ((∃ located, Locates text located) ∨ ∃ host, request.target = .authority host) ∧
    (∀ located, Locates text located →
      url = located ∧
      Request.build method (ofText url) fields body = .ok again ∧
      (∀ later, (Canister.Request.ofHttp again later).url = url) ∧
      ∀ grammar target, Target.read grammar (ofText url) = .ok target →
        target = .origin resource) ∧
    ('?' ∈ url.toList ↔ request.target.query?.isSome = true) ∧
    ∀ otherMethod otherText otherFields otherBody other otherVersion,
      Request.build otherMethod (ofText otherText) otherFields otherBody = .ok other →
      (Canister.Request.ofHttp other otherVersion).url = url →
      other.target.path = request.target.path ∧ other.target.query? = request.target.query? := by
  intro url resource again
  obtain ⟨hMethod, hTarget, hHeaders, hBody⟩ := Request.build_eq_ok_iff.mp hBuild
  have hPath := Target.questionMark_notMem_path hTarget
  refine ⟨?_, ?_, Resource.questionMark_mem_text_iff hPath, ?_⟩
  · rcases (Target.form_of_read hTarget).2.locates with ⟨hText, -⟩ | ⟨hAuthority, -⟩
    · exact .inl ⟨_, hText⟩
    · exact .inr hAuthority
  · intro located hLocates
    obtain ⟨hUrl, -, hRead, hReaders⟩ := Target.read_resource_text hTarget hLocates
    have hSame : url = located := hUrl
    rw [hSame]
    refine ⟨rfl, ?_, ?_, hReaders⟩
    · exact Request.build_eq_ok_iff.mpr ⟨hMethod, hRead, hHeaders, hBody⟩
    · intro later
      exact hUrl
  · intro otherMethod otherText otherFields otherBody other otherVersion hOther hUrl
    have hOtherTarget := (Request.build_eq_ok_iff.mp hOther).2.1
    have hSame : other.target.resource = request.target.resource :=
      Resource.text_injective (Target.questionMark_notMem_path hOtherTarget) hPath hUrl
    exact ⟨congrArg Resource.path hSame, congrArg Resource.query? hSame⟩

/-- An address with a query but no path, and a path of two slashes with an empty query. -/
theorem canister_url_round_trip_of_edges :
    (∃ request, Request.build "GET" (ofText "HTTP://a:80?x?#f") [] [] = .ok request ∧
      Locates "HTTP://a:80?x?#f" "/?x?" ∧
      (Canister.Request.ofHttp request 2).url = "/?x?" ∧
      ∃ again, Request.build "GET" (ofText "/?x?") [] [] = .ok again ∧
        again.target = .origin ⟨"/", some "x?"⟩ ∧
        (Canister.Request.ofHttp again 1).url = "/?x?") ∧
    ∃ request, Request.build "GET" (ofText "//b/%41?#?") [] [] = .ok request ∧
      Locates "//b/%41?#?" "//b/%41?" ∧ (Canister.Request.ofHttp request 2).url = "//b/%41?" ∧
      request.target.query? = some "" := by
  constructor
  · have hLocates : Locates "HTTP://a:80?x?#f" "/?x?" :=
      @Locates.absolute "HTTP" "a:80" "?x?#f" (by decide) (by simp [isDelimiter])
        (by simp [isDelimiter])
    have hBuild : Request.build "GET" (ofText "HTTP://a:80?x?#f") [] [] =
        .ok ⟨.get, .absolute .http "a:80" ⟨"/", some "x?"⟩, .empty, []⟩ := rfl
    obtain ⟨-, hForms, -, -⟩ := canister_url_round_trip hBuild 2
    obtain ⟨hUrl, hAgain, hMapped, -⟩ := hForms _ hLocates
    exact ⟨_, hBuild, hLocates, hUrl, _, hAgain, rfl, hMapped 1⟩
  · have hLocates : Locates "//b/%41?#?" "//b/%41?" := .origin (by decide)
    have hBuild : Request.build "GET" (ofText "//b/%41?#?") [] [] =
        .ok ⟨.get, .origin ⟨"//b/%41", some ""⟩, .empty, []⟩ := rfl
    obtain ⟨-, hForms, -, -⟩ := canister_url_round_trip hBuild 2
    exact ⟨_, hBuild, hLocates, (hForms _ hLocates).1, rfl⟩

end CanisterGateway.Http
