import Mathlib.Tactic.SplitIfs
import CanisterGateway.Gateway.Trust

/-!
# How a verdict depends on the time

The time of a verification is compared with the time of the certificate, and that is all that it
is for. Whatever is found wrong before that comparison is found wrong at any time. Otherwise there
is a verdict that does not depend on the time either, and it is the verdict wherever the comparison
succeeds.

The comparison itself has no answer near the epoch: the first time of the window would be negative
there, and the times are unsigned.

## Main results

* `checkTime_eq` — the comparison, told by the difference of the times.
* `verify_dependsOnWindow` — whatever is checked, only the window depends on the time.
* `certificateVerifier_window_exact` — when a response is accepted that is accepted at some time.
-/

namespace CanisterGateway.Certification

/-- The time that is stated by the certificate that a response brings. -/
def certificateTime? (response : Canister.Response) : Option Nat := do
  let header ← lastHeader? response.headers certificateHeader
  let statement ← (Statement.ofText header).toOption
  let bytes ← statement.certificate?
  let certificate ← (Certificate.ofBytes bytes).toOption
  certificate.time.toOption

/-- Checks that a certificate is signed, below the root key and for the canister. -/
def Certificate.checkAuthority (certificate : Certificate) (canisterId rootKey : Bytes) :
    Except (Stop CertificateFault) Unit := do
  let key ← match certificate.delegation? with
    | none => .ok rootKey
    | some delegation => delegation.subnetKey canisterId rootKey
  (certificate.checkSignature key).mapError .fault

/-- First the times are compared, and then the certificate's authority is checked. -/
theorem Certificate.check_of_time {certificate : Certificate} {time : Nat}
    (hTime : certificate.time = .ok time) (canisterId rootKey : Bytes) (now distance : Nat) :
    certificate.check canisterId rootKey now distance =
      checkTime time now distance >>= fun _ => certificate.checkAuthority canisterId rootKey := by
  rw [check, hTime]
  rfl

/-- The comparison of the times, told by their difference. -/
theorem checkTime_eq (time now distance : Nat) :
    checkTime time now distance =
      if now < distance ∨ 1 <<< 128 ≤ now + distance then .error .aborted
      else if (distance : Int) < time - now then .error (.fault (.future time (now + distance)))
      else if (distance : Int) < now - time then .error (.fault (.past time (now - distance)))
      else .ok () := by
  rw [checkTime, timeWindow?]
  by_cases hWindow : now + distance < 1 <<< 128 ∧ distance ≤ now
  · have hThere : ¬ (now < distance ∨ 1 <<< 128 ≤ now + distance) := by omega
    have hFuture : (distance : Int) < time - now ↔ time > now + distance := by omega
    have hPast : (distance : Int) < now - time ↔ time < now - distance := by omega
    rw [if_pos hWindow, if_neg hThere]
    simp only [hFuture, hPast]
  · have hGone : now < distance ∨ 1 <<< 128 ≤ now + distance := by omega
    rw [if_neg hWindow, if_pos hGone]

/-- A clock that reads zero accepts no time, not even the same. -/
example : checkTime 0 0 300000000000 = .error .aborted := rfl

/-- How the check of a certificate ends is how the whole check ends. -/
def ofCertificateStop : Stop CertificateFault → Stop Fault
  | .fault fault => .fault (.certificate fault)
  | .aborted => .aborted

/-- A check that depends on the time of verification at most through the window around it. -/
inductive DependsOnWindow {α : Type} (time? : Option Nat) (distance : Nat) (check : Nat → Check α) :
    Prop
  | refused (stop : Stop Fault) (h : ∀ now, check now = .error stop)
  | windowed (time : Nat) (verdict : Check α) (hTime : time? = some time)
    (h : ∀ now, check now =
      (checkTime time now distance).mapError ofCertificateStop >>= fun _ => verdict)

namespace DependsOnWindow

variable {α β : Type} {time? : Option Nat} {distance : Nat}

theorem of_error (stop : Stop Fault) :
    DependsOnWindow time? distance fun _ => (.error stop : Check α) :=
  .refused stop fun _ => rfl

/-- What comes before the window does not depend on the time. -/
theorem bind (first : Check β) {check : β → Nat → Check α}
    (h : ∀ value, first = .ok value → DependsOnWindow time? distance (check value)) :
    DependsOnWindow time? distance fun now => first >>= fun value => check value now := by
  cases first with
  | error stop => exact .of_error stop
  | ok value => exact h value rfl

end DependsOnWindow

theorem mapError_bind {ε δ α β : Type} (f : ε → δ) (first : Except ε α) (next : α → Except ε β) :
    (first >>= next).mapError f = first.mapError f >>= fun value => (next value).mapError f := by
  cases first <;> rfl

theorem toOption_of_mapError {ε δ α : Type} {f : ε → δ} {first : Except ε α} {value : α}
    (h : first.mapError f = .ok value) : first.toOption = some value := by
  cases first with
  | error fault => cases h
  | ok found =>
      cases h
      rfl

/-- The check of a certificate begins with the comparison of the times. -/
theorem checkCertificate_dependsOnWindow {α : Type} {certificate : Certificate} {time? : Option Nat}
    (hTime : certificate.time.toOption = time?) (bounds : TrustBounds) (verdict : Check α) :
    DependsOnWindow time? bounds.timeDistance fun now =>
      checkCertificate certificate bounds now >>= fun _ => verdict := by
  cases hStated : certificate.time with
  | error fault =>
      refine .refused (.fault (.certificate fault)) fun now => ?_
      rw [checkCertificate, Certificate.check, hStated]
      rfl
  | ok time =>
      rw [hStated] at hTime
      let authority := certificate.checkAuthority bounds.canisterId bounds.rootKey
      refine .windowed time (authority.mapError ofCertificateStop >>= fun _ => verdict) hTime.symm
        fun now => ?_
      have hSplit : checkCertificate certificate bounds now =
          (checkTime time now bounds.timeDistance).mapError ofCertificateStop >>=
            fun _ => authority.mapError ofCertificateStop := by
        rw [← mapError_bind, ← Certificate.check_of_time hStated]
        rfl
      rw [hSplit, bind_assoc]

theorem verifyBody_dependsOnWindow (request : Canister.Request) (response : Canister.Response)
    (bounds : TrustBounds) (tree : HashTree) {certificate : Certificate} {time? : Option Nat}
    (hTime : certificate.time.toOption = time?) :
    DependsOnWindow time? bounds.timeDistance fun now =>
      verifyBody request response bounds now tree certificate := by
  unfold verifyBody
  exact checkCertificate_dependsOnWindow hTime bounds _

theorem verifyParts_dependsOnWindow (request : Canister.Request) (response : Canister.Response)
    (bounds : TrustBounds) (tree : HashTree) (header : String) (path? : Option Bytes)
    {certificate : Certificate} {time? : Option Nat}
    (hTime : certificate.time.toOption = time?) :
    DependsOnWindow time? bounds.timeDistance fun now =>
      verifyParts request response bounds now tree certificate header path? := by
  unfold verifyParts
  cases lastHeader? response.headers expressionHeader with
  | none => exact .of_error _
  | some expression =>
      cases path? with
      | none => exact .of_error _
      | some pathBytes =>
          refine .bind _ fun segments _ => .bind _ fun coverage _ => .bind _ fun target _ =>
            .bind _ fun requested _ => ?_
          exact checkCertificate_dependsOnWindow hTime bounds _

/-- **Only the window depends on the time.** -/
theorem verify_dependsOnWindow (request : Canister.Request) (response : Canister.Response)
    (bounds : TrustBounds) :
    DependsOnWindow (certificateTime? response) bounds.timeDistance
      (verify request response bounds) := by
  unfold verify
  cases hHeader : lastHeader? response.headers certificateHeader with
  | none => exact .of_error _
  | some header =>
      refine .bind _ fun statement hStatement => ?_
      cases statement.tree? with
      | none => exact .of_error _
      | some treeBytes =>
          refine .bind _ fun tree _ => ?_
          cases hBytes : statement.certificate? with
          | none => exact .of_error _
          | some certificateBytes =>
              refine .bind _ fun certificate hCertificate => ?_
              have hTime : certificate.time.toOption = certificateTime? response := by
                rw [certificateTime?, hHeader]
                show _ = ((Statement.ofText header).toOption.bind fun statement =>
                  statement.certificate?.bind fun bytes =>
                    (Certificate.ofBytes bytes).toOption.bind fun certificate =>
                      certificate.time.toOption)
                rw [toOption_of_mapError hStatement, Option.bind_some, hBytes, Option.bind_some,
                  toOption_of_mapError hCertificate, Option.bind_some]
              dsimp only
              split
              · exact .of_error _
              · split
                · exact verifyBody_dependsOnWindow request response bounds tree hTime
                · split
                  · exact verifyParts_dependsOnWindow request response bounds tree header _ hTime
                  · exact .of_error _

end CanisterGateway.Certification

namespace CanisterGateway.Gateway

open Certification

/-- A clock counts seconds since the epoch with 64 bits, so all its readings in nanoseconds are below
this. A clock that is before the epoch reads zero. -/
def clockLimit : Nat := (1 <<< 64) * 1000000000

/-- How a check ends is how the verifier ends. -/
def ofVerificationStop : Stop Fault → Stop Error
  | .fault fault => .fault (.verification fault)
  | .aborted => .aborted

theorem certificateVerifier_apply (request : Canister.Request) (response : Canister.Response)
    (bounds : TrustBounds) (now : Nat) :
    certificateVerifier request response bounds now =
      (verify request response bounds now).mapError ofVerificationStop := by
  rfl

/-- Whatever the time is, either the same is found wrong, or the comparison of the times comes
first. It ends without a verdict where the window has an end that is no number of 128 bits. -/
theorem certificateVerifier_eq_window (request : Canister.Request) (response : Canister.Response)
    (canister : Principal) (rootKey : Bytes) :
    let verdictAt := certificateVerifier request response (trustBounds canister rootKey)
    (∃ stop, ∀ now, verdictAt now = .error stop) ∨
      ∃ (time : Nat) (verdict : Except (Stop Error) Acceptance),
        certificateTime? response = some time ∧ ∀ now : Nat,
          verdictAt now =
            if now < maxCertificateAge ∨ 1 <<< 128 ≤ now + maxCertificateAge then .error .aborted
            else if (maxCertificateAge : Int) < time - now then
              .error (.fault (.verification
                (.certificate (.future time (now + maxCertificateAge)))))
            else if (maxCertificateAge : Int) < now - time then
              .error (.fault (.verification
                (.certificate (.past time (now - maxCertificateAge)))))
            else verdict := by
  intro verdictAt
  have hVerdict := certificateVerifier_apply request response (trustBounds canister rootKey)
  rcases verify_dependsOnWindow request response (trustBounds canister rootKey) with
    ⟨stop, hRefused⟩ | ⟨time, verdict, hTime, hWindowed⟩
  · refine .inl ⟨ofVerificationStop stop, fun now => ?_⟩
    exact (hVerdict now).trans (congrArg _ (hRefused now))
  · refine .inr ⟨time, verdict.mapError ofVerificationStop, hTime, fun now => ?_⟩
    have hDistance : (trustBounds canister rootKey).timeDistance = maxCertificateAge := rfl
    refine (hVerdict now).trans ?_
    rw [hWindowed, hDistance, checkTime_eq]
    split_ifs <;> rfl

/--
**The window of trust is exact.** Either a response is accepted at no time at all, or its
certificate states a time, and what becomes of it at any reading of a clock is settled by the
difference of the two:

* it is accepted if neither exceeds the other by more than the greatest age;
* it is rejected, as too far in the future or in the past, if one of them does;
* within the greatest age after the epoch there is no verdict, for the window has no first time.
-/
theorem certificateVerifier_window_exact (request : Canister.Request)
    (response : Canister.Response) (canister : Principal) (rootKey : Bytes) :
    let verdictAt := certificateVerifier request response (trustBounds canister rootKey)
    (∀ now acceptance, verdictAt now ≠ .ok acceptance) ∨
      ∃ (time : Nat) (acceptance : Acceptance),
        certificateTime? response = some time ∧ ∀ now : Nat, now < clockLimit →
          verdictAt now =
            if now < maxCertificateAge then .error .aborted
            else if (maxCertificateAge : Int) < time - now then
              .error (.fault (.verification
                (.certificate (.future time (now + maxCertificateAge)))))
            else if (maxCertificateAge : Int) < now - time then
              .error (.fault (.verification
                (.certificate (.past time (now - maxCertificateAge)))))
            else .ok acceptance := by
  intro verdictAt
  rcases certificateVerifier_eq_window request response canister rootKey with
    ⟨stop, hRefused⟩ | ⟨time, verdict, hTime, hWindowed⟩
  · refine .inl fun now acceptance hOk => ?_
    exact nomatch (hRefused now).symm.trans hOk
  · cases verdict with
    | error stop =>
        refine .inl fun now acceptance hOk => ?_
        have hStopped := (hWindowed now).symm.trans hOk
        split_ifs at hStopped
    | ok acceptance =>
        refine .inr ⟨time, acceptance, hTime, fun now hClock => ?_⟩
        have hRoom : ¬ 1 <<< 128 ≤ now + maxCertificateAge := by
          rw [clockLimit] at hClock
          rw [maxCertificateAge]
          omega
        have hWindow := hWindowed now
        simp only [hRoom, or_false] at hWindow
        exact hWindow

end CanisterGateway.Gateway
