import CanisterGateway.Gateway.Error

/-!
# The root key

The root key is known from the start, or a provider is asked for it when it is first needed, or
there is none. What a provider once answered is kept; when it fails, the next use asks again.

Uses may overlap. Then at most one of them has a call to the provider in progress, and the others
wait. `step` says what happens at one event, whatever the order of events is: a waiting use takes
its turn when nobody else has it, a success answers everyone from then on, and a failure or a
dropped use frees the turn. A sequence of uses that do not overlap is `resolve`, one after
another.

## Main results

* `resolve_eq_of_key` — a known key is the answer, and nobody is asked.
* `resolve_anchor_of_error` — a failure leaves everything as it was.
* `resolve_asked_iff`, `resolve_result_of_asked` — the provider is asked if there is no other way to
  a key, and then the result is its answer.
* `resolve_of_not_asked`, `resolve_anchor_of_no_provider` — where nobody is asked, or there is nobody
  to ask, everything stays as it was.
* `run_append` — a run may be cut anywhere.
-/

namespace CanisterGateway.Gateway

/-- The key that is known so far, and whether there is someone to ask for it. -/
structure TrustAnchor where
  key? : Option Bytes
  hasProvider : Bool
  deriving DecidableEq

/-- How a use of the root key ends. -/
abbrev KeyResult := Except Error Bytes

namespace TrustAnchor

/-- A key that is known from the start. -/
def preset (key : Bytes) : TrustAnchor := ⟨some key, false⟩

/-- A provider that is asked on the first use. -/
def lazy : TrustAnchor := ⟨none, true⟩

/-- Neither a key nor a provider. -/
def absent : TrustAnchor := ⟨none, false⟩

/-! ## One use after another -/

/-- A use of the root key: its result, whether the provider was asked, and what is known then. -/
structure Resolution where
  result : KeyResult
  asked : Bool
  anchor : TrustAnchor

/-- Resolves the root key, where `answer` is what the provider says if it is asked. -/
def resolve (anchor : TrustAnchor) (answer : KeyResult) : Resolution :=
  match anchor.key? with
  | some key => ⟨.ok key, false, anchor⟩
  | none =>
    if anchor.hasProvider then
      match answer with
      | .ok key => ⟨.ok key, true, { anchor with key? := some key }⟩
      | .error error => ⟨.error error, true, anchor⟩
    else ⟨.error .rootKeyUnavailable, false, anchor⟩

theorem resolve_eq_of_key {anchor : TrustAnchor} {key : Bytes} (h : anchor.key? = some key)
    (answer : KeyResult) : anchor.resolve answer = ⟨.ok key, false, anchor⟩ := by
  simp only [resolve, h]

theorem resolve_anchor_of_error {anchor : TrustAnchor} {answer : KeyResult} {error : Error}
    (h : (anchor.resolve answer).result = .error error) :
    (anchor.resolve answer).anchor = anchor := by
  cases hKey : anchor.key? with
  | some key => rw [resolve_eq_of_key hKey]
  | none =>
      cases hProvider : anchor.hasProvider with
      | false => simp [resolve, hKey, hProvider]
      | true =>
          cases answer with
          | ok key => simp [resolve, hKey, hProvider] at h
          | error e => simp [resolve, hKey, hProvider]

theorem resolve_asked_iff {anchor : TrustAnchor} {answer : KeyResult} :
    (anchor.resolve answer).asked = true ↔ anchor.key? = none ∧ anchor.hasProvider = true := by
  cases hKey : anchor.key? with
  | some key => simp [resolve_eq_of_key hKey]
  | none =>
      cases hProvider : anchor.hasProvider with
      | false => simp [resolve, hKey, hProvider]
      | true => cases answer <;> simp [resolve, hKey, hProvider]

theorem resolve_result_of_asked {anchor : TrustAnchor} {answer : KeyResult}
    (h : (anchor.resolve answer).asked = true) : (anchor.resolve answer).result = answer := by
  obtain ⟨hKey, hProvider⟩ := resolve_asked_iff.mp h
  cases answer <;> simp [resolve, hKey, hProvider]

/-- Where nobody is asked, it does not matter what the provider would say. -/
theorem resolve_of_not_asked {anchor : TrustAnchor} {answer : KeyResult}
    (h : (anchor.resolve answer).asked = false) (other : KeyResult) :
    anchor.resolve other = ⟨(anchor.resolve answer).result, false, anchor⟩ := by
  obtain ⟨key?, hasProvider⟩ := anchor
  cases key? with
  | some key => rfl
  | none =>
      cases hasProvider with
      | false => rfl
      | true => cases answer <;> cases h

theorem resolve_anchor_of_not_asked {anchor : TrustAnchor} {answer : KeyResult}
    (h : (anchor.resolve answer).asked = false) : (anchor.resolve answer).anchor = anchor := by
  rw [resolve_of_not_asked h]

theorem resolve_anchor_of_no_provider {anchor : TrustAnchor} (h : anchor.hasProvider = false)
    (answer : KeyResult) : (anchor.resolve answer).anchor = anchor := by
  refine resolve_anchor_of_not_asked (eq_false_of_ne_true fun hAsked => ?_)
  rw [(resolve_asked_iff.mp hAsked).2] at h
  cases h

end TrustAnchor

/-! ## Overlapping uses -/

/-- The anchor while it is in use: who has a provider call in progress and who waits, in the order
of arrival. Uses are told apart by numbers. -/
structure KeyCell where
  anchor : TrustAnchor
  calling? : Option Nat
  waiting : List Nat
  deriving DecidableEq

/-- What may happen to an anchor in use. -/
inductive KeyEvent
  /-- A use begins. -/
  | start (use : Nat)
  /-- A waiting use is resumed. -/
  | resume (use : Nat)
  /-- The provider answers the call in progress. -/
  | answer (result : KeyResult)
  /-- A use is given up. -/
  | drop (use : Nat)

/-- What an event brings about. -/
inductive KeyEffect
  /-- The provider is called on behalf of a use. -/
  | call (use : Nat)
  /-- A use ends with a result. -/
  | finish (use : Nat) (result : KeyResult)

namespace KeyCell

/-- An anchor that nobody uses. -/
def idle (anchor : TrustAnchor) : KeyCell := ⟨anchor, none, []⟩

/-- Lets a use that waits have its turn, if it can. -/
def proceed (cell : KeyCell) (use : Nat) : KeyCell × List KeyEffect :=
  match cell.anchor.key? with
  | some key => ({ cell with waiting := cell.waiting.erase use }, [.finish use (.ok key)])
  | none =>
    if cell.anchor.hasProvider then
      match cell.calling? with
      | some _ => (cell, [])
      | none => ({ cell with calling? := some use, waiting := cell.waiting.erase use }, [.call use])
    else
      ({ cell with waiting := cell.waiting.erase use }, [.finish use (.error .rootKeyUnavailable)])

/-- What happens at an event. Events that make no sense change nothing. -/
def step (cell : KeyCell) : KeyEvent → KeyCell × List KeyEffect
  | .start use =>
    if use ∈ cell.waiting ∨ cell.calling? = some use then (cell, [])
    else ({ cell with waiting := cell.waiting ++ [use] }, [])
  | .resume use => if use ∈ cell.waiting then cell.proceed use else (cell, [])
  | .answer result =>
    match cell.calling? with
    | none => (cell, [])
    | some use =>
      match result with
      | .ok key =>
        ({ cell with anchor := { cell.anchor with key? := some key }, calling? := none },
          [.finish use (.ok key)])
      | .error error => ({ cell with calling? := none }, [.finish use (.error error)])
  | .drop use =>
    ({ cell with
        calling? := if cell.calling? = some use then none else cell.calling?
        waiting := cell.waiting.erase use }, [])

/-- The effects of events in their order, and the cell after them. -/
def run (cell : KeyCell) : List KeyEvent → KeyCell × List KeyEffect
  | [] => (cell, [])
  | event :: events =>
    let (cell, effects) := cell.step event
    let (cell, more) := cell.run events
    (cell, effects ++ more)

theorem run_append (cell : KeyCell) (first second : List KeyEvent) :
    cell.run (first ++ second) =
      ((cell.run first).1.run second |>.1,
        (cell.run first).2 ++ ((cell.run first).1.run second).2) := by
  induction first generalizing cell with
  | nil => simp [run]
  | cons event events ih =>
      simp only [List.cons_append, run, ih, List.append_assoc]

end KeyCell

/-! ## Uses that are started together -/

/-- The result of a use among effects. -/
def resultOf? (use : Nat) (effects : List KeyEffect) : Option KeyResult :=
  effects.findSome? fun
    | .finish other result => if other = use then some result else none
    | .call _ => none

/-- The number of provider calls among effects. -/
def providerCalls (effects : List KeyEffect) : Nat :=
  effects.countP fun
    | .call _ => true
    | .finish _ _ => false

namespace KeyCell

/-- Resumes every waiting use in its turn, and lets the provider answer the call that is then in
progress. -/
def round (cell : KeyCell) (answer : KeyResult) : KeyCell × List KeyEffect :=
  cell.run (cell.waiting.map .resume ++ [.answer answer])

/-- Some rounds, where `answers` says what the provider answers to its calls, counted from zero. -/
def settle (answers : Nat → KeyResult) : (rounds : Nat) → KeyCell → KeyCell × List KeyEffect
  | 0, cell => (cell, [])
  | rounds + 1, cell =>
    let (cell, effects) := cell.round (answers 0)
    let more := cell.settle (fun call => answers (call + providerCalls effects)) rounds
    (more.1, effects ++ more.2)

end KeyCell

/-- The results of a number of uses, the provider calls they took, and the anchor after them. -/
structure Gathering where
  results : List KeyResult
  calls : Nat
  anchor : TrustAnchor

/-- Uses that are started in order and awaited together. One round for each is enough. -/
def TrustAnchor.together (anchor : TrustAnchor) (answers : Nat → KeyResult) (uses : Nat) :
    Gathering :=
  let all := List.range uses
  let started := (KeyCell.idle anchor).run (all.map .start)
  let (cell, effects) := started.1.settle answers uses
  ⟨all.filterMap (resultOf? · effects), providerCalls effects, cell.anchor⟩

end CanisterGateway.Gateway
