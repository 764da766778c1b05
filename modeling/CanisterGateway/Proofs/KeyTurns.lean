import CanisterGateway.Proofs.SharedKey

/-!
# Uses of the root key in turns

Uses that are started together overlap, and yet they come to what they would have come to one after
another. In every round the use that has waited longest is resolved, and the answer of the provider
is for it alone; or else nobody has to be asked, and then all uses are resolved at once. So each
round ends at least one use, and as many rounds as there are uses end them all.

## Main results

* `run_alone` — a use that nobody overlaps is resolved on its own.
* `KeyCell.round_of_asked`, `KeyCell.round_of_not_asked` — what one round does.
* `KeyCell.waiting_round_lt` — a round ends at least one of the uses that wait.
* `KeyCell.settle_eq_inTurn` — what the rounds come to.
* `TrustAnchor.together_eq_inTurn`, `TrustAnchor.length_together` — uses that are started together
  end like uses in turn, each of them with a result.
* `TrustAnchor.together_results_agree` — those that are given a key are given one key.
-/

namespace CanisterGateway.Gateway

variable {anchor : TrustAnchor} {use : Nat} {uses waiting : List Nat}

/-! ## In turn -/

/-- Uses that are resolved one after another, where `answers` says what the provider answers to its
calls, counted from zero. -/
def TrustAnchor.inTurn (anchor : TrustAnchor) (answers : Nat → KeyResult) : Nat → Gathering
  | 0 => ⟨[], 0, anchor⟩
  | uses + 1 =>
    let first := anchor.resolve (answers 0)
    let asked := if first.asked then 1 else 0
    let rest := first.anchor.inTurn (fun call => answers (call + asked)) uses
    ⟨first.result :: rest.results, asked + rest.calls, rest.anchor⟩

namespace TrustAnchor

theorem length_inTurn (anchor : TrustAnchor) (answers : Nat → KeyResult) (uses : Nat) :
    (anchor.inTurn answers uses).results.length = uses := by
  induction uses generalizing anchor answers with
  | zero => rfl
  | succ uses ih => rw [inTurn, List.length_cons, ih]

/-- Where nobody is asked, all uses end alike. -/
theorem inTurn_of_not_asked {answer : KeyResult} (h : (anchor.resolve answer).asked = false)
    (answers : Nat → KeyResult) (uses : Nat) :
    anchor.inTurn answers uses =
      ⟨.replicate uses (anchor.resolve answer).result, 0, anchor⟩ := by
  induction uses generalizing answers with
  | zero => rfl
  | succ uses ih =>
      rw [inTurn, resolve_of_not_asked h]
      simp only [ih, List.replicate_succ, Bool.false_eq_true, if_false, Nat.add_zero]

end TrustAnchor

/-! ## One round -/

namespace KeyCell

/-- While a call is in progress, resuming uses changes nothing. -/
theorem run_resume_of_calling (hAsks : anchor.key? = none ∧ anchor.hasProvider = true)
    (uses : List Nat) :
    (KeyCell.mk anchor (some use) waiting).run (uses.map .resume) =
      (⟨anchor, some use, waiting⟩, []) := by
  obtain ⟨hKey, hProvider⟩ := hAsks
  induction uses with
  | nil => rfl
  | cons other uses ih =>
      have hStep : (KeyCell.mk anchor (some use) waiting).step (.resume other) =
          (⟨anchor, some use, waiting⟩, []) := by
        simp only [step, proceed, hKey, hProvider, if_true, ite_self]
      simp only [List.map_cons, run, hStep, ih, List.nil_append]

/-- Where nobody has to be asked, every use that is resumed ends. -/
theorem run_resume_of_not_asked {answer : KeyResult} {calling? : Option Nat}
    (h : (anchor.resolve answer).asked = false) (waiting : List Nat) :
    (KeyCell.mk anchor calling? waiting).run (waiting.map .resume) =
      (⟨anchor, calling?, []⟩, waiting.map (.finish · (anchor.resolve answer).result)) := by
  induction waiting with
  | nil => rfl
  | cons use rest ih =>
      have hStep : (KeyCell.mk anchor calling? (use :: rest)).step (.resume use) =
          (⟨anchor, calling?, rest⟩, [.finish use (anchor.resolve answer).result]) := by
        obtain ⟨key?, hasProvider⟩ := anchor
        cases key? with
        | some key => simp [step, proceed, TrustAnchor.resolve]
        | none =>
            cases hasProvider with
            | false => simp [step, proceed, TrustAnchor.resolve]
            | true => cases answer <;> cases h
      simp only [List.map_cons, run, hStep, ih, List.cons_append, List.nil_append]

/-- **A round in which the provider is asked** resolves the use that has waited longest. The others
wait on. -/
theorem round_of_asked {answer : KeyResult} (h : (anchor.resolve answer).asked = true)
    (use : Nat) (rest : List Nat) :
    (KeyCell.mk anchor none (use :: rest)).round answer =
      (⟨(anchor.resolve answer).anchor, none, rest⟩,
        [.call use, .finish use (anchor.resolve answer).result]) := by
  have hAsks := TrustAnchor.resolve_asked_iff.mp h
  have hFirst : (KeyCell.mk anchor none (use :: rest)).step (.resume use) =
      (⟨anchor, some use, rest⟩, [.call use]) := by
    simp [step, proceed, hAsks]
  have hAnswer : (KeyCell.mk anchor (some use) rest).step (.answer answer) =
      (⟨(anchor.resolve answer).anchor, none, rest⟩,
        [.finish use (anchor.resolve answer).result]) := by
    cases answer <;> simp [step, TrustAnchor.resolve, hAsks]
  simp only [round, List.map_cons, List.cons_append, run, hFirst, run_append,
    run_resume_of_calling hAsks, hAnswer, List.nil_append, List.append_nil]

/-- **A round in which nobody is asked** resolves all the uses that wait. -/
theorem round_of_not_asked {answer : KeyResult} (h : (anchor.resolve answer).asked = false)
    (waiting : List Nat) :
    (KeyCell.mk anchor none waiting).round answer =
      (.idle anchor, waiting.map (.finish · (anchor.resolve answer).result)) := by
  simp only [round, run_append, run_resume_of_not_asked h, run, step, List.append_nil]
  rfl

/-- A round ends at least one of the uses that wait. -/
theorem waiting_round_lt (answer : KeyResult) (hWaiting : waiting ≠ []) :
    ((KeyCell.mk anchor none waiting).round answer).1.waiting.length < waiting.length := by
  obtain ⟨use, rest, rfl⟩ := List.exists_cons_of_ne_nil hWaiting
  cases h : (anchor.resolve answer).asked with
  | true =>
      rw [round_of_asked h]
      exact Nat.lt_succ_self _
  | false =>
      rw [round_of_not_asked h]
      exact Nat.succ_pos _

end KeyCell

/-! ## The result of a use -/

theorem resultOf?_finish_self (use : Nat) (result : KeyResult) (effects : List KeyEffect) :
    resultOf? use (.finish use result :: effects) = some result := by
  simp [resultOf?]

theorem resultOf?_finish_of_ne {other : Nat} (h : other ≠ use) (result : KeyResult)
    (effects : List KeyEffect) :
    resultOf? use (.finish other result :: effects) = resultOf? use effects := by
  simp [resultOf?, h]

theorem resultOf?_call (use other : Nat) (effects : List KeyEffect) :
    resultOf? use (.call other :: effects) = resultOf? use effects := by
  simp [resultOf?]

/-- A use that asks and ends, before the others do. -/
theorem map_resultOf?_of_asked (h : use ∉ uses) (result : KeyResult) (effects : List KeyEffect) :
    (use :: uses).map (resultOf? · (.call use :: .finish use result :: effects)) =
      some result :: uses.map (resultOf? · effects) := by
  rw [List.map_cons, resultOf?_call, resultOf?_finish_self]
  refine congrArg _ (List.map_congr_left fun other hOther => ?_)
  have hNe : use ≠ other := fun hSame => h (hSame ▸ hOther)
  rw [resultOf?_call, resultOf?_finish_of_ne hNe]

/-- Uses that end alike. -/
theorem resultOf?_map_finish (h : use ∈ uses) (result : KeyResult) :
    resultOf? use (uses.map (.finish · result)) = some result := by
  induction uses with
  | nil => cases h
  | cons other uses ih =>
      rw [List.map_cons]
      by_cases hSame : other = use
      · rw [hSame, resultOf?_finish_self]
      · rw [resultOf?_finish_of_ne hSame]
        exact ih ((List.mem_cons.mp h).resolve_left (Ne.symm hSame))

theorem map_resultOf?_map_finish (uses : List Nat) (result : KeyResult) :
    uses.map (resultOf? · (uses.map (.finish · result))) =
      (List.replicate uses.length result).map some := by
  rw [List.map_replicate, ← List.map_const']
  exact List.map_congr_left fun use hUse => resultOf?_map_finish hUse result

theorem providerCalls_append (first second : List KeyEffect) :
    providerCalls (first ++ second) = providerCalls first + providerCalls second :=
  List.countP_append

theorem providerCalls_map_finish (uses : List Nat) (result : KeyResult) :
    providerCalls (uses.map (.finish · result)) = 0 := by
  simp [providerCalls, List.countP_map]

/-- A use that nobody overlaps is a resolution of its own. -/
theorem run_alone (anchor : TrustAnchor) (use : Nat) (answer : KeyResult) :
    let resolution := anchor.resolve answer
    let ended := (KeyCell.idle anchor).run [.start use, .resume use, .answer answer]
    resultOf? use ended.2 = some resolution.result ∧
      providerCalls ended.2 = (if resolution.asked then 1 else 0) ∧
      ended.1 = .idle resolution.anchor := by
  intro resolution ended
  have hEnded : ended = (KeyCell.mk anchor none [use]).round answer := by
    simp [ended, KeyCell.round, KeyCell.run, KeyCell.step, KeyCell.idle]
  rw [hEnded]
  cases h : resolution.asked with
  | true =>
      rw [KeyCell.round_of_asked h, resultOf?_call, resultOf?_finish_self]
      exact ⟨rfl, rfl, rfl⟩
  | false =>
      rw [KeyCell.round_of_not_asked h, TrustAnchor.resolve_anchor_of_not_asked h]
      exact ⟨resultOf?_finish_self _ _ _, rfl, rfl⟩

/-! ## All rounds -/

namespace KeyCell

theorem settle_succ (answers : Nat → KeyResult) (rounds : Nat) (cell : KeyCell) :
    cell.settle answers (rounds + 1) =
      let first := cell.round (answers 0)
      let more := first.1.settle (fun call => answers (call + providerCalls first.2)) rounds
      (more.1, first.2 ++ more.2) := rfl

theorem settle_idle (anchor : TrustAnchor) (answers : Nat → KeyResult) (rounds : Nat) :
    (idle anchor).settle answers rounds = (idle anchor, []) := by
  induction rounds generalizing answers with
  | zero => rfl
  | succ rounds ih =>
      have hRound : (idle anchor).round (answers 0) = (idle anchor, []) := rfl
      simp only [settle_succ, hRound, ih, List.append_nil]

/-- **The rounds come to uses in turn.** -/
theorem settle_eq_inTurn {rounds : Nat} (anchor : TrustAnchor) (answers : Nat → KeyResult)
    (hNodup : waiting.Nodup) (hRounds : waiting.length ≤ rounds) :
    let settled := (KeyCell.mk anchor none waiting).settle answers rounds
    let turns := anchor.inTurn answers waiting.length
    settled.1 = idle turns.anchor ∧ providerCalls settled.2 = turns.calls ∧
      waiting.map (resultOf? · settled.2) = turns.results.map some := by
  -- a round either takes the first use off those that wait, and the others go on with the anchor
  -- and the answers that are left, or it ends them all
  induction waiting generalizing anchor answers rounds with
  | nil =>
      intro settled turns
      have hSettled : settled = (idle anchor, []) := settle_idle anchor answers rounds
      rw [hSettled]
      exact ⟨rfl, rfl, rfl⟩
  | cons use rest ih =>
      obtain ⟨hUse, hRest⟩ := List.nodup_cons.mp hNodup
      cases rounds with
      | zero => exact absurd hRounds (Nat.not_succ_le_zero _)
      | succ rounds =>
          cases h : (anchor.resolve (answers 0)).asked with
          | true =>
              obtain ⟨hCell, hCalls, hResults⟩ := ih (anchor.resolve (answers 0)).anchor
                (fun call => answers (call + 1)) hRest (Nat.le_of_succ_le_succ hRounds)
              simp only [settle_succ, round_of_asked h, List.length_cons, TrustAnchor.inTurn, h,
                if_true]
              refine ⟨hCell, ?_, ?_⟩
              · rw [providerCalls_append]
                exact congrArg (1 + ·) hCalls
              · refine (map_resultOf?_of_asked hUse _ _).trans ?_
                exact congrArg (some _ :: ·) hResults
          | false =>
              simp only [settle_succ, round_of_not_asked h, settle_idle, List.append_nil]
              rw [TrustAnchor.inTurn_of_not_asked h]
              exact ⟨rfl, providerCalls_map_finish _ _, map_resultOf?_map_finish _ _⟩

end KeyCell

/-! ## Uses that are started together -/

namespace KeyCell

/-- Uses that start wait in the order in which they do. -/
theorem run_start (anchor : TrustAnchor) (hNodup : (waiting ++ uses).Nodup) :
    (KeyCell.mk anchor none waiting).run (uses.map .start) =
      (⟨anchor, none, waiting ++ uses⟩, []) := by
  induction uses generalizing waiting with
  | nil => simp [run]
  | cons use uses ih =>
      have hNew : use ∉ waiting := by
        have hApart := (List.nodup_append.mp hNodup).2.2
        exact fun hWaits => hApart use hWaits use (.head _) rfl
      have hStep : (KeyCell.mk anchor none waiting).step (.start use) =
          (⟨anchor, none, waiting ++ [use]⟩, []) := by
        simp [step, hNew]
      have hSplit : waiting ++ use :: uses = waiting ++ [use] ++ uses := by simp
      rw [hSplit] at hNodup
      simp only [List.map_cons, run, hStep, ih hNodup, hSplit, List.nil_append]

/-- Uses that settle do so by events. -/
theorem exists_run_eq_settle (answers : Nat → KeyResult) (rounds : Nat) (cell : KeyCell) :
    ∃ events, cell.settle answers rounds = cell.run events := by
  induction rounds generalizing answers cell with
  | zero => exact ⟨[], rfl⟩
  | succ rounds ih =>
      obtain ⟨events, hEvents⟩ := ih
        (fun call => answers (call + providerCalls (cell.round (answers 0)).2))
        (cell.round (answers 0)).1
      refine ⟨cell.waiting.map .resume ++ [.answer (answers 0)] ++ events, ?_⟩
      rw [run_append, ← round]
      simp only [settle_succ, hEvents]

end KeyCell

/-- **Uses that are started together end like uses in turn.** -/
theorem TrustAnchor.together_eq_inTurn (anchor : TrustAnchor) (answers : Nat → KeyResult)
    (uses : Nat) : anchor.together answers uses = anchor.inTurn answers uses := by
  have hStarted : (KeyCell.idle anchor).run ((List.range uses).map .start) =
      (⟨anchor, none, List.range uses⟩, []) := KeyCell.run_start anchor List.nodup_range
  obtain ⟨hCell, hCalls, hResults⟩ := KeyCell.settle_eq_inTurn anchor answers
    List.nodup_range (Nat.le_of_eq (List.length_range (n := uses)))
  rw [List.length_range] at hCell hCalls hResults
  have hGathered : (List.range uses).filterMap (resultOf? ·
      ((KeyCell.mk anchor none (List.range uses)).settle answers uses).2) =
        (anchor.inTurn answers uses).results := by
    have hFilter := congrArg (List.filterMap id) hResults
    rw [List.filterMap_map, List.filterMap_map] at hFilter
    exact hFilter.trans List.filterMap_some
  simp only [together, hStarted, hCell, hCalls, hGathered]
  rfl

/-- Each of the uses that are started together ends with a result. -/
theorem TrustAnchor.length_together (anchor : TrustAnchor) (answers : Nat → KeyResult)
    (uses : Nat) : (anchor.together answers uses).results.length = uses := by
  rw [together_eq_inTurn, length_inTurn]

theorem finish_mem_of_resultOf? {use : Nat} {effects : List KeyEffect} {result : KeyResult}
    (h : resultOf? use effects = some result) : .finish use result ∈ effects := by
  obtain ⟨effect, hEffect, hResult⟩ := List.exists_of_findSome?_eq_some h
  cases effect with
  | call other => cases hResult
  | finish other given =>
      simp only [Option.ite_none_right_eq_some, Option.some.injEq] at hResult
      obtain ⟨rfl, rfl⟩ := hResult
      exact hEffect

/-- The uses that are started together and given a key are all given the one that is known then. -/
theorem TrustAnchor.together_results_agree {answers : Nat → KeyResult} {uses : Nat} {key : Bytes}
    (hKey : .ok key ∈ (anchor.together answers uses).results) :
    (anchor.together answers uses).anchor.key? = some key := by
  let started := (List.range uses).map KeyEvent.start
  obtain ⟨events, hEvents⟩ :=
    ((KeyCell.idle anchor).run started).1.exists_run_eq_settle answers uses
  have hTogether : anchor.together answers uses =
      ⟨(List.range uses).filterMap
          (resultOf? · (((KeyCell.idle anchor).run started).1.run events).2),
        providerCalls (((KeyCell.idle anchor).run started).1.run events).2,
        (((KeyCell.idle anchor).run started).1.run events).1.anchor⟩ := by
    rw [← hEvents]
    rfl
  rw [hTogether] at hKey ⊢
  obtain ⟨use, -, hUse⟩ := List.mem_filterMap.mp hKey
  have hStarted := (TellsOf.idle anchor).run started
  rw [(hStarted.run events).anchor_eq]
  exact hStarted.key?_of_run (finish_mem_of_resultOf? hUse)

end CanisterGateway.Gateway
