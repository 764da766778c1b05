import Mathlib.Tactic.SplitIfs
import Mathlib.Tactic.Tauto
import CanisterGateway.Gateway.TrustAnchor

/-!
# Uses of the root key that overlap

Any number of uses of the root key may begin, wait, be given up and be resumed in any order, while
the provider answers whenever it likes and whatever it likes. What can be told of that from the
outside is a history: the events in their order, each with what it brought about. A ledger is what
a history comes to: who is underway, who has a call to the provider in progress, and which keys the
provider has given.

The ledger knows nothing of the cell. The invariant is that the cell holds no more than the ledger
tells, and its step lemma has one case for every event.

## Main results

* `KeyCell.flatMap_effects_history` — a history has all the effects of the run.
* `TellsOf.step`, `tellsOf_run` — the cell and its ledger agree after every event.
* `TellsOf.effects_eq` — what an event brings about is settled by the ledger alone.
* `overlapping_uses_share_key` — one call at a time, one success at most, one key for all.
-/

namespace CanisterGateway.Gateway

/-- Only an anchor without a key and with a provider has someone to ask. -/
theorem TrustAnchor.eq_lazy {anchor : TrustAnchor} (hKey : anchor.key? = none)
    (hProvider : anchor.hasProvider = true) : anchor = .lazy := by
  cases anchor
  simp_all [TrustAnchor.lazy]

theorem TrustAnchor.eq_absent {anchor : TrustAnchor} (hKey : anchor.key? = none)
    (hProvider : anchor.hasProvider = false) : anchor = .absent := by
  cases anchor
  simp_all [TrustAnchor.absent]

/-! ## Histories -/

/-- An event with what it brought about. -/
structure Moment where
  event : KeyEvent
  effects : List KeyEffect

/-- What happens to a cell, event by event. -/
def KeyCell.history (cell : KeyCell) : List KeyEvent → List Moment
  | [] => []
  | event :: events => ⟨event, (cell.step event).2⟩ :: (cell.step event).1.history events

/-- What a history comes to: the uses that began and have neither ended nor been given up, those on
whose behalf a call to the provider is in progress, and the keys that the calls have given. -/
structure Ledger where
  underway : List Nat
  calling : List Nat
  obtained : List Bytes
  deriving DecidableEq

namespace Ledger

/-- Nothing has happened. -/
def blank : Ledger := ⟨[], [], []⟩

/-- An event is noted. An answer is the answer to every call that is in progress, and a use that is
given up takes its call with it. -/
def noteEvent (ledger : Ledger) : KeyEvent → Ledger
  | .start use => { ledger with underway := ledger.underway.insert use }
  | .resume _ => ledger
  | .answer (.ok key) =>
    { ledger with
        calling := []
        obtained := ledger.obtained ++ ledger.calling.map fun _ => key }
  | .answer (.error _) => { ledger with calling := [] }
  | .drop use =>
    { ledger with
        underway := ledger.underway.filter (· ≠ use)
        calling := ledger.calling.filter (· ≠ use) }

/-- Something that an event brings about is noted. -/
def noteEffect (ledger : Ledger) : KeyEffect → Ledger
  | .call use => { ledger with calling := ledger.calling ++ [use] }
  | .finish use _ => { ledger with underway := ledger.underway.filter (· ≠ use) }

/-- An event is noted, and then what it brought about. -/
def note (ledger : Ledger) (moment : Moment) : Ledger :=
  moment.effects.foldl noteEffect (ledger.noteEvent moment.event)

/-- What a history comes to. -/
def ofHistory (history : List Moment) : Ledger :=
  history.foldl note blank

/-- The key that a use is given: the one that was known from the start, or else the first one that
the provider gave. -/
def key? (ledger : Ledger) (anchor : TrustAnchor) : Option Bytes :=
  anchor.key?.or ledger.obtained.head?

/-- What an event brings about, as far as the ledger and the anchor at the start tell. -/
def prospect (ledger : Ledger) (anchor : TrustAnchor) : KeyEvent → List KeyEffect
  | .start _ => []
  | .drop _ => []
  | .answer result => ledger.calling.map fun use => .finish use result
  | .resume use =>
    if use ∈ ledger.underway ∧ use ∉ ledger.calling then
      match ledger.key? anchor with
      | some key => [.finish use (.ok key)]
      | none =>
        if anchor.hasProvider = false then [.finish use (.error .rootKeyUnavailable)]
        else if ledger.calling = [] then [.call use]
        else []
    else []

variable {ledger : Ledger} {anchor : TrustAnchor} {event : KeyEvent} {use : Nat}

/-- What a use does when it is resumed: it ends with the key, or without one if nobody can be asked
for it, or asks for it if nobody else does. -/
theorem mem_prospect_resume {effect : KeyEffect}
    (h : effect ∈ ledger.prospect anchor (.resume use)) :
    use ∈ ledger.underway ∧
      ((∃ key, ledger.key? anchor = some key ∧ effect = .finish use (.ok key)) ∨
        (ledger.key? anchor = none ∧ anchor.hasProvider = false ∧
          effect = .finish use (.error .rootKeyUnavailable)) ∨
        (ledger.key? anchor = none ∧ anchor.hasProvider = true ∧ ledger.calling = [] ∧
          effect = .call use)) := by
  rw [prospect] at h
  by_cases hTurn : use ∈ ledger.underway ∧ use ∉ ledger.calling
  · rw [if_pos hTurn] at h
    refine ⟨hTurn.1, ?_⟩
    cases hKey : ledger.key? anchor with
    | some key =>
        rw [hKey] at h
        exact .inl ⟨key, rfl, List.mem_singleton.mp h⟩
    | none =>
        rw [hKey] at h
        dsimp only at h
        split_ifs at h with hProvider hNobody
        · exact .inr (.inl ⟨rfl, hProvider, List.mem_singleton.mp h⟩)
        · exact .inr (.inr ⟨rfl, (Bool.not_eq_false _).mp hProvider, hNobody,
            List.mem_singleton.mp h⟩)
        · cases h
  · rw [if_neg hTurn] at h
    cases h

theorem call_mem_prospect (h : .call use ∈ ledger.prospect anchor event) :
    event = .resume use ∧ use ∈ ledger.underway ∧ ledger.calling = [] ∧
      ledger.key? anchor = none ∧ anchor.hasProvider = true := by
  cases event with
  | start other => cases h
  | drop other => cases h
  | answer result =>
      obtain ⟨other, -, hEq⟩ := List.mem_map.mp h
      cases hEq
  | resume other =>
      obtain ⟨hUnderway, hDoes⟩ := mem_prospect_resume h
      rcases hDoes with ⟨key, -, hEq⟩ | ⟨-, -, hEq⟩ | ⟨hKey, hProvider, hNobody, hEq⟩
      · cases hEq
      · cases hEq
      · cases hEq
        exact ⟨rfl, hUnderway, hNobody, hKey, hProvider⟩

theorem finish_mem_prospect {result : KeyResult}
    (h : .finish use result ∈ ledger.prospect anchor event) :
    (event = .answer result ∧ use ∈ ledger.calling) ∨
      (event = .resume use ∧
        ((∃ key, ledger.key? anchor = some key ∧ result = .ok key) ∨
          (ledger.key? anchor = none ∧ anchor.hasProvider = false ∧
            result = .error .rootKeyUnavailable))) := by
  cases event with
  | start other => cases h
  | drop other => cases h
  | answer given =>
      obtain ⟨other, hOther, hEq⟩ := List.mem_map.mp h
      cases hEq
      exact .inl ⟨rfl, hOther⟩
  | resume other =>
      rcases (mem_prospect_resume h).2 with
        ⟨key, hKey, hEq⟩ | ⟨hKey, hProvider, hEq⟩ | ⟨-, -, -, hEq⟩
      · cases hEq
        exact .inr ⟨rfl, .inl ⟨key, hKey, rfl⟩⟩
      · cases hEq
        exact .inr ⟨rfl, .inr ⟨hKey, hProvider, rfl⟩⟩
      · cases hEq

/-! ### A key that is known stays the key -/

theorem obtained_foldl_noteEffect (ledger : Ledger) (effects : List KeyEffect) :
    (effects.foldl noteEffect ledger).obtained = ledger.obtained := by
  induction effects generalizing ledger with
  | nil => rfl
  | cons effect effects ih =>
      rw [List.foldl_cons, ih]
      cases effect <;> rfl

/-- The keys that were obtained stay, and others come after them. -/
theorem obtained_note (ledger : Ledger) (moment : Moment) :
    ∃ more, (ledger.note moment).obtained = ledger.obtained ++ more := by
  rw [note, obtained_foldl_noteEffect]
  cases moment.event with
  | answer result =>
      cases result with
      | ok key => exact ⟨_, rfl⟩
      | error error => exact ⟨[], (List.append_nil _).symm⟩
  | start use => exact ⟨[], (List.append_nil _).symm⟩
  | resume use => exact ⟨[], (List.append_nil _).symm⟩
  | drop use => exact ⟨[], (List.append_nil _).symm⟩

theorem key?_note {key : Bytes}
    (h : ledger.key? anchor = some key) (moment : Moment) :
    (ledger.note moment).key? anchor = some key := by
  obtain ⟨more, hMore⟩ := ledger.obtained_note moment
  rw [key?] at h
  rw [key?, hMore, List.head?_append, ← Option.or_assoc, h, Option.some_or]

theorem key?_foldl_note {key : Bytes}
    (h : ledger.key? anchor = some key) (moments : List Moment) :
    (moments.foldl note ledger).key? anchor = some key := by
  induction moments generalizing ledger with
  | nil => exact h
  | cons moment moments ih => exact ih (key?_note h moment)

/-- An answer to nobody is not noted. -/
theorem noteEvent_answer_of_nobody (h : ledger.calling = [])
    (result : KeyResult) : ledger.noteEvent (.answer result) = ledger := by
  obtain ⟨underway, calling, obtained⟩ := ledger
  subst h
  cases result with
  | ok key => simp only [noteEvent, List.map_nil, List.append_nil]
  | error error => rfl

end Ledger

namespace KeyCell

variable (cell : KeyCell)

/-- A history tells all that a run brings about. -/
theorem flatMap_effects_history (events : List KeyEvent) :
    (cell.history events).flatMap Moment.effects = (cell.run events).2 := by
  induction events generalizing cell with
  | nil => rfl
  | cons event events ih =>
      rw [history, List.flatMap_cons, ih]
      rfl

end KeyCell

/-! ## The invariant -/

/-- A cell that began with an anchor is as its ledger tells. A key that is known is the one of the
ledger, and calls are made only while there is none. -/
structure TellsOf (anchor : TrustAnchor) (ledger : Ledger) (cell : KeyCell) : Prop where
  anchor_eq : cell.anchor = ⟨ledger.key? anchor, anchor.hasProvider⟩
  calling_eq : ledger.calling = cell.calling?.toList
  mem_underway : ∀ use, use ∈ ledger.underway ↔ use ∈ cell.waiting ∨ cell.calling? = some use
  nodup : cell.waiting.Nodup
  apart : ∀ use, cell.calling? = some use → use ∉ cell.waiting
  lacking : ∀ use, cell.calling? = some use → anchor = .lazy ∧ ledger.obtained = []
  obtained_le : ledger.obtained.length ≤ 1
  obtained_lazy : ledger.obtained ≠ [] → anchor = .lazy

namespace TellsOf

variable {anchor : TrustAnchor} {ledger : Ledger} {cell : KeyCell}

theorem idle (anchor : TrustAnchor) : TellsOf anchor .blank (.idle anchor) where
  anchor_eq := by rw [Ledger.key?, Ledger.blank, List.head?_nil, Option.or_none]; rfl
  calling_eq := rfl
  mem_underway := by simp [Ledger.blank, KeyCell.idle]
  nodup := List.nodup_nil
  apart := nofun
  lacking := nofun
  obtained_le := Nat.zero_le 1
  obtained_lazy := nofun

theorem key?_eq (h : TellsOf anchor ledger cell) : cell.anchor.key? = ledger.key? anchor :=
  congrArg TrustAnchor.key? h.anchor_eq

theorem hasProvider_eq (h : TellsOf anchor ledger cell) :
    cell.anchor.hasProvider = anchor.hasProvider := by
  rw [h.anchor_eq]

theorem calling_le (h : TellsOf anchor ledger cell) : ledger.calling.length ≤ 1 := by
  rw [h.calling_eq]
  exact Option.length_toList_le

theorem calling_of_mem (h : TellsOf anchor ledger cell) {use : Nat} (hCalls : use ∈ ledger.calling) :
    ledger.calling = [use] := by
  rw [h.calling_eq, Option.mem_toList] at hCalls
  rw [h.calling_eq, hCalls, Option.toList_some]

theorem obtained_cases (h : TellsOf anchor ledger cell) :
    ledger.obtained = [] ∨ anchor = .lazy ∧ ∃ key, ledger.obtained = [key] := by
  rcases Nat.le_one_iff_eq_zero_or_eq_one.mp h.obtained_le with hZero | hOne
  · exact .inl (List.eq_nil_of_length_eq_zero hZero)
  · obtain ⟨key, hKey⟩ := List.length_eq_one_iff.mp hOne
    exact .inr ⟨h.obtained_lazy (hKey ▸ List.cons_ne_nil key []), key, hKey⟩

/-- Without a key and a provider there never is a key. -/
theorem key?_absent (h : TellsOf .absent ledger cell) : ledger.key? .absent = none := by
  rcases h.obtained_cases with hNone | ⟨hLazy, -⟩
  · rw [Ledger.key?, hNone]
    rfl
  · exact nomatch hLazy

/-- A use waits if it is underway and has no call in progress. -/
theorem mem_waiting (h : TellsOf anchor ledger cell) (use : Nat) :
    use ∈ cell.waiting ↔ use ∈ ledger.underway ∧ use ∉ ledger.calling := by
  rw [h.mem_underway, h.calling_eq, Option.mem_toList]
  constructor
  · intro hWaits
    exact ⟨.inl hWaits, fun hCalls => h.apart use hCalls hWaits⟩
  · rintro ⟨hWaits | hCalls, hNot⟩
    · exact hWaits
    · exact absurd hCalls hNot

/-- What an event brings about is what the ledger tells. -/
theorem effects_eq (h : TellsOf anchor ledger cell) (event : KeyEvent) :
    (cell.step event).2 = ledger.prospect anchor event := by
  cases event with
  | start use =>
      rw [KeyCell.step]
      split <;> rfl
  | drop use => rfl
  | answer result =>
      rw [Ledger.prospect, h.calling_eq]
      cases hCalling : cell.calling? with
      | none => simp [KeyCell.step, hCalling]
      | some use => cases result <;> simp [KeyCell.step, hCalling]
  | resume use =>
      rw [KeyCell.step, Ledger.prospect]
      by_cases hWaits : use ∈ cell.waiting
      · rw [if_pos hWaits, if_pos ((h.mem_waiting use).mp hWaits), KeyCell.proceed, h.key?_eq,
          h.hasProvider_eq]
        cases ledger.key? anchor with
        | some key => rfl
        | none =>
            cases anchor.hasProvider with
            | false => rfl
            | true =>
                rw [h.calling_eq]
                cases cell.calling? <;> rfl
      · rw [if_neg hWaits, if_neg fun hTold => hWaits ((h.mem_waiting use).mpr hTold)]

/-! ### The step, event by event -/

/-- A use that is already underway begins nothing. -/
theorem start (h : TellsOf anchor ledger cell) (use : Nat) :
    TellsOf anchor (ledger.noteEvent (.start use)) (cell.step (.start use)).1 := by
  rw [KeyCell.step]
  by_cases hUnderway : use ∈ cell.waiting ∨ cell.calling? = some use
  · have hSame : ledger.noteEvent (.start use) = ledger := by
      rw [Ledger.noteEvent, List.insert_of_mem ((h.mem_underway use).mpr hUnderway)]
    rw [if_pos hUnderway, hSame]
    exact h
  · rw [if_neg hUnderway]
    obtain ⟨hWaits, hCalls⟩ := not_or.mp hUnderway
    refine { h with mem_underway := ?_, nodup := ?_, apart := ?_ }
    · intro other
      simp only [Ledger.noteEvent, List.mem_insert_iff, List.mem_append, List.mem_singleton,
        h.mem_underway]
      tauto
    · rw [List.nodup_append]
      refine ⟨h.nodup, List.pairwise_singleton _ use, ?_⟩
      rintro other hOther new hNew rfl
      exact hWaits (List.mem_singleton.mp hNew ▸ hOther)
    · intro other hOther hMem
      rcases List.mem_append.mp hMem with hBefore | hNew
      · exact h.apart other hOther hBefore
      · rw [List.mem_singleton.mp hNew] at hOther
        exact hCalls hOther

/-- A use that is given up neither waits nor calls any more. -/
theorem drop (h : TellsOf anchor ledger cell) (use : Nat) :
    TellsOf anchor (ledger.noteEvent (.drop use)) (cell.step (.drop use)).1 := by
  have hCalling : ∀ other,
      (if cell.calling? = some use then none else cell.calling?) = some other ↔
        cell.calling? = some other ∧ other ≠ use := by
    intro other
    by_cases hUse : cell.calling? = some use
    · rw [if_pos hUse, hUse]
      constructor
      · exact nofun
      · rintro ⟨hSome, hNe⟩
        exact absurd (Option.some.inj hSome).symm hNe
    · rw [if_neg hUse]
      constructor
      · intro hSome
        exact ⟨hSome, fun hEq => hUse (hEq ▸ hSome)⟩
      · exact And.left
  constructor
  case anchor_eq => exact h.anchor_eq
  case obtained_le => exact h.obtained_le
  case obtained_lazy => exact h.obtained_lazy
  case calling_eq =>
    show ledger.calling.filter (· ≠ use) = _
    rw [h.calling_eq]
    cases hCell : cell.calling? with
    | none => simp [KeyCell.step, hCell]
    | some other => by_cases hUse : other = use <;> simp [KeyCell.step, hCell, hUse]
  case mem_underway =>
    intro other
    show other ∈ ledger.underway.filter (· ≠ use) ↔
      other ∈ cell.waiting.erase use ∨ (if _ then none else _) = some other
    rw [hCalling, h.nodup.mem_erase_iff, List.mem_filter, h.mem_underway, decide_eq_true_iff]
    tauto
  case nodup => exact h.nodup.erase use
  case apart =>
    intro other hOther hMem
    exact h.apart other ((hCalling other).mp hOther).1 (List.mem_of_mem_erase hMem)
  case lacking =>
    intro other hOther
    exact h.lacking other ((hCalling other).mp hOther).1

/-- A waiting use that ends leaves the others as they were. -/
theorem finish (h : TellsOf anchor ledger cell) {use : Nat} (hWaits : use ∈ cell.waiting)
    (result : KeyResult) :
    TellsOf anchor (ledger.noteEffect (.finish use result))
      { cell with waiting := cell.waiting.erase use } := by
  refine { h with mem_underway := ?_, nodup := h.nodup.erase use, apart := ?_ }
  · intro other
    have hNot : cell.calling? = some other → other ≠ use := by
      rintro hCalls rfl
      exact h.apart other hCalls hWaits
    simp only [Ledger.noteEffect, List.mem_filter, h.mem_underway, decide_eq_true_iff,
      h.nodup.mem_erase_iff]
    tauto
  · intro other hOther hMem
    exact h.apart other hOther (List.mem_of_mem_erase hMem)

/-- A waiting use calls the provider if nobody else does and there is no key. -/
theorem call (h : TellsOf anchor ledger cell) {use : Nat} (hWaits : use ∈ cell.waiting)
    (hKey : ledger.key? anchor = none) (hProvider : anchor.hasProvider = true)
    (hCalling : cell.calling? = none) :
    TellsOf anchor (ledger.noteEffect (.call use))
      { cell with calling? := some use, waiting := cell.waiting.erase use } := by
  obtain ⟨hPreset, hObtained⟩ := Option.or_eq_none_iff.mp hKey
  refine { h with calling_eq := ?_, mem_underway := ?_, nodup := h.nodup.erase use, apart := ?_,
                  lacking := ?_ }
  · show ledger.calling ++ [use] = [use]
    rw [h.calling_eq, hCalling]
    rfl
  · intro other
    show other ∈ ledger.underway ↔ other ∈ cell.waiting.erase use ∨ some use = some other
    rw [h.mem_underway, hCalling, h.nodup.mem_erase_iff, Option.some.injEq]
    by_cases hEq : use = other
    · simp [← hEq, hWaits]
    · simp [hEq, Ne.symm hEq]
  · intro other hOther hMem
    rw [← Option.some.inj hOther] at hMem
    exact ((h.nodup.mem_erase_iff).mp hMem).1 rfl
  · intro other _
    exact ⟨TrustAnchor.eq_lazy hPreset hProvider, List.head?_eq_none_iff.mp hObtained⟩

theorem resume (h : TellsOf anchor ledger cell) (use : Nat) :
    TellsOf anchor (ledger.note ⟨.resume use, (cell.step (.resume use)).2⟩)
      (cell.step (.resume use)).1 := by
  rw [KeyCell.step]
  by_cases hWaits : use ∈ cell.waiting
  · rw [if_pos hWaits, KeyCell.proceed, h.key?_eq, h.hasProvider_eq]
    cases hKey : ledger.key? anchor with
    | some key => exact h.finish hWaits (.ok key)
    | none =>
        cases hProvider : anchor.hasProvider with
        | false => exact h.finish hWaits (.error .rootKeyUnavailable)
        | true =>
            cases hCalling : cell.calling? with
            | none => exact h.call hWaits hKey hProvider hCalling
            | some other => exact h
  · rw [if_neg hWaits]
    exact h

/-- The use whose call is in progress ends, and leaves the others as they were. -/
theorem release (h : TellsOf anchor ledger cell) {use : Nat} (hCalls : cell.calling? = some use) :
    TellsOf anchor
      { ledger with underway := ledger.underway.filter (· ≠ use), calling := [] }
      { cell with calling? := none } := by
  refine { h with calling_eq := rfl, mem_underway := ?_, apart := nofun, lacking := nofun }
  intro other
  rw [List.mem_filter, decide_eq_true_iff, h.mem_underway, hCalls, Option.some.injEq]
  constructor
  · rintro ⟨hWaits | hSame, hNe⟩
    · exact .inl hWaits
    · exact absurd hSame.symm hNe
  · rintro (hWaits | hNone)
    · refine ⟨.inl hWaits, ?_⟩
      rintro rfl
      exact h.apart other hCalls hWaits
    · exact nomatch hNone

/-- An answer ends the use whose call is in progress. A success is then the key for everyone. -/
theorem answer (h : TellsOf anchor ledger cell) (result : KeyResult) :
    TellsOf anchor (ledger.note ⟨.answer result, (cell.step (.answer result)).2⟩)
      (cell.step (.answer result)).1 := by
  cases hCalling : cell.calling? with
  | none =>
      have hNobody : ledger.calling = [] := by rw [h.calling_eq, hCalling]; rfl
      simp only [KeyCell.step, hCalling, Ledger.note, Ledger.noteEvent_answer_of_nobody hNobody]
      exact h
  | some use =>
      have hSomebody : ledger.calling = [use] := by rw [h.calling_eq, hCalling]; rfl
      have hReleased := h.release hCalling
      cases result with
      | error error =>
          simp only [KeyCell.step, hCalling]
          exact hReleased
      | ok key =>
          obtain ⟨rfl, hObtained⟩ := h.lacking use hCalling
          simp only [KeyCell.step, hCalling, Ledger.note, Ledger.noteEvent, hSomebody, hObtained]
          refine { hReleased with anchor_eq := ?_, obtained_le := Nat.le_refl 1,
                                  obtained_lazy := fun _ => rfl, lacking := nofun }
          rw [h.hasProvider_eq]
          rfl

/-- **The step lemma.** A cell and its ledger agree after an event if they did before it. -/
theorem step (h : TellsOf anchor ledger cell) (event : KeyEvent) :
    TellsOf anchor (ledger.note ⟨event, (cell.step event).2⟩) (cell.step event).1 := by
  cases event with
  | start use =>
      rw [Ledger.note, h.effects_eq]
      exact h.start use
  | resume use => exact h.resume use
  | answer result => exact h.answer result
  | drop use => exact h.drop use

/-- The run lemma. -/
theorem run (h : TellsOf anchor ledger cell) (events : List KeyEvent) :
    TellsOf anchor ((cell.history events).foldl Ledger.note ledger) (cell.run events).1 := by
  induction events generalizing ledger cell with
  | nil => exact h
  | cons event events ih => exact ih (h.step event)

/-- Whoever is given a key is given the one that is known from then on. -/
theorem key?_of_finish (h : TellsOf anchor ledger cell) {event : KeyEvent} {use : Nat} {key : Bytes}
    (hFinish : .finish use (.ok key) ∈ (cell.step event).2) :
    (ledger.note ⟨event, (cell.step event).2⟩).key? anchor = some key := by
  rw [h.effects_eq] at hFinish
  rcases Ledger.finish_mem_prospect hFinish with ⟨rfl, hCalls⟩ | ⟨-, hEnd⟩
  · rw [h.calling_eq, Option.mem_toList] at hCalls
    obtain ⟨rfl, hObtained⟩ := h.lacking use hCalls
    rw [Ledger.key?, Ledger.note, Ledger.obtained_foldl_noteEffect, Ledger.noteEvent, hObtained,
      h.calling_eq, hCalls]
    rfl
  · rcases hEnd with ⟨known, hKnown, hSame⟩ | ⟨-, -, hNone⟩
    · cases hSame
      exact Ledger.key?_note hKnown _
    · exact nomatch hNone

/-- All the keys that are given in a run are the one that is known at its end. -/
theorem key?_of_run (h : TellsOf anchor ledger cell) {events : List KeyEvent} {use : Nat}
    {key : Bytes} (hFinish : .finish use (.ok key) ∈ (cell.run events).2) :
    ((cell.history events).foldl Ledger.note ledger).key? anchor = some key := by
  induction events generalizing ledger cell with
  | nil => cases hFinish
  | cons event events ih =>
      rcases List.mem_append.mp hFinish with hNow | hLater
      · exact Ledger.key?_foldl_note (h.key?_of_finish hNow) _
      · exact ih (h.step event) hLater

end TellsOf

/-- The cell and its ledger agree, whatever has happened. -/
theorem tellsOf_run (anchor : TrustAnchor) (events : List KeyEvent) :
    TellsOf anchor (.ofHistory ((KeyCell.idle anchor).history events))
      ((KeyCell.idle anchor).run events).1 :=
  (TellsOf.idle anchor).run events

/--
**Overlapping uses share one key.** Whatever has happened, and whatever happens next:

* at most one call to the provider is in progress, and at most one has ever succeeded;
* a call begins on behalf of a use that is resumed, and only if there is a provider, no key was
  known from the start, no call is in progress and none has succeeded;
* every use that was given a key was given the same one: that of the start, or else the one that
  the call that succeeded gave;
* an answer of the provider ends the use whose call it answers, and no other; a failure reaches
  only that use, unless there is neither key nor provider;
* a use that has no call in progress ends when it is resumed if there is a key, or no provider, and
  else makes a call if nobody else has one in progress;
* the anchor holds that key, and otherwise stays as it was.
-/
theorem overlapping_uses_share_key (anchor : TrustAnchor) (events : List KeyEvent)
    (event : KeyEvent) :
    let begun := KeyCell.idle anchor
    let cell := (begun.run events).1
    let past := Ledger.ofHistory (begun.history events)
    let effects := (cell.step event).2
    past.calling.length ≤ 1 ∧
    (past.obtained = [] ∨ anchor = .lazy ∧ ∃ key, past.obtained = [key]) ∧
    (∀ use, .call use ∈ effects →
      anchor = .lazy ∧ past.calling = [] ∧ past.obtained = [] ∧
        event = .resume use ∧ use ∈ past.underway) ∧
    (∀ use key, .finish use (.ok key) ∈ (begun.run events).2 → past.key? anchor = some key) ∧
    (∀ result, event = .answer result → effects = past.calling.map (.finish · result)) ∧
    (∀ use error, .finish use (.error error) ∈ effects →
      (event = .answer (.error error) ∧ past.calling = [use]) ∨
        (event = .resume use ∧ anchor = .absent ∧ error = .rootKeyUnavailable)) ∧
    (∀ use, event = .resume use → use ∈ past.underway → use ∉ past.calling →
      (∀ key, past.key? anchor = some key → effects = [.finish use (.ok key)]) ∧
      (anchor = .absent → effects = [.finish use (.error .rootKeyUnavailable)]) ∧
      (anchor = .lazy → past.obtained = [] → past.calling = [] → effects = [.call use])) ∧
    cell.anchor = ⟨past.key? anchor, anchor.hasProvider⟩ := by
  intro begun cell past effects
  have hTells : TellsOf anchor past cell := tellsOf_run anchor events
  have hEffects : effects = past.prospect anchor event := hTells.effects_eq event
  refine ⟨hTells.calling_le, hTells.obtained_cases, ?_, ?_, ?_, ?_, ?_, hTells.anchor_eq⟩
  · intro use hCall
    rw [hEffects] at hCall
    obtain ⟨hEvent, hUnderway, hNobody, hKey, hProvider⟩ := Ledger.call_mem_prospect hCall
    obtain ⟨hPreset, hObtained⟩ := Option.or_eq_none_iff.mp hKey
    exact ⟨TrustAnchor.eq_lazy hPreset hProvider, hNobody, List.head?_eq_none_iff.mp hObtained,
      hEvent, hUnderway⟩
  · intro use key hFinish
    exact (TellsOf.idle anchor).key?_of_run hFinish
  · rintro result rfl
    exact hEffects
  · intro use error hFinish
    rw [hEffects] at hFinish
    rcases Ledger.finish_mem_prospect hFinish with ⟨hEvent, hCalls⟩ | ⟨hEvent, hEnd⟩
    · exact .inl ⟨hEvent, hTells.calling_of_mem hCalls⟩
    · rcases hEnd with ⟨key, -, hOk⟩ | ⟨hKey, hProvider, hError⟩
      · exact nomatch hOk
      · have hPreset := (Option.or_eq_none_iff.mp hKey).1
        exact .inr ⟨hEvent, TrustAnchor.eq_absent hPreset hProvider, Except.error.inj hError⟩
  · rintro use rfl hUnderway hIdle
    rw [hEffects, Ledger.prospect, if_pos ⟨hUnderway, hIdle⟩]
    refine ⟨?_, ?_, ?_⟩
    · intro key hKey
      rw [hKey]
    · rintro rfl
      rw [hTells.key?_absent]
      rfl
    · rintro rfl hObtained hNobody
      rw [Ledger.key?, hObtained, hNobody]
      rfl

/-- Three uses of which the first is given up while it asks and then begins again, the second meets a
failure of the provider, and the third obtains the key. -/
theorem overlapping_uses_share_key_of_race :
    let failure := Error.requestBody "no route"
    let race : List KeyEvent :=
      [.start 0, .start 1, .start 2, .resume 0, .resume 1, .drop 0, .resume 1,
        .answer (.error failure), .start 0, .resume 2, .resume 0, .answer (.ok [7])]
    let past := Ledger.ofHistory ((KeyCell.idle .lazy).history race)
    ((KeyCell.idle .lazy).run race).2 =
      [.call 0, .call 1, .finish 1 (.error failure), .call 2, .finish 2 (.ok [7])] ∧
    (((KeyCell.idle .lazy).run race).1.step (.resume 0)).2 = [.finish 0 (.ok [7])] ∧
    past.calling.length ≤ 1 ∧
    ∀ use key, .finish use (.ok key) ∈ ((KeyCell.idle .lazy).run race).2 → key = [7] := by
  intro failure race past
  obtain ⟨hCalling, -, -, hKeys, -, -, hResumed, -⟩ :=
    overlapping_uses_share_key .lazy race (.resume 0)
  refine ⟨rfl, ?_, hCalling, ?_⟩
  · exact (hResumed 0 rfl (by decide) (by decide)).1 [7] rfl
  · intro use key hFinish
    exact (Option.some.inj (hKeys use key hFinish)).symm

end CanisterGateway.Gateway
