import ApiGateway.Dispatch.Attempts

/-! # Runs of attempts

`sendFrom_cases` says once what an attempt can come to: it is cancelled before its call, during the
call or in the pause behind it, it brings an answer, it is the last one to fail, or it is followed
by another. Everything about a whole run, such as `follows_send`, is an induction on the attempts
that are left with these cases.
-/

set_option autoImplicit false

namespace ApiGateway.Dispatch

open Catalog (RetryPolicy)

variable {script : Script} {policy : RetryPolicy} {limit : UInt64} {cancel : Option Nat}

theorem cancelledBy_eq_some_iff {time t : Nat} :
    cancelledBy cancel time = some t ↔ cancel = some t ∧ t ≤ time := by
  simp [cancelledBy, Option.filter_eq_some_iff]

/-- What the attempt with a number can come to, when it begins at `time` and `left` further attempts
may follow it. -/
inductive Step (script : Script) (policy : RetryPolicy) (limit : UInt64) (cancel : Option Nat) :
    (left attempt time : Nat) → Sending → Prop where
  | cancelledBefore {left attempt time t : Nat} :
      cancelledBy cancel time = some t →
      Step script policy limit cancel left attempt time
        ⟨.error .cancelled, attempt, attempt - 1, [], time⟩
  | cancelledDuring {left attempt time t : Nat} :
      cancelledBy cancel time = none →
      cancelledBy cancel (time + ((script (attempt - 1)).within limit).delay) = some t →
      Step script policy limit cancel left attempt time
        ⟨.error .cancelled, attempt, attempt, [], t⟩
  | answered {left attempt time : Nat} {a : Answer} :
      cancelledBy cancel (time + ((script (attempt - 1)).within limit).delay) = none →
      ((script (attempt - 1)).within limit).result = .ok a →
      Step script policy limit cancel left attempt time
        ⟨.ok a, attempt, attempt, [], time + ((script (attempt - 1)).within limit).delay⟩
  | failed {left attempt time : Nat} {e : TransportError} :
      cancelledBy cancel (time + ((script (attempt - 1)).within limit).delay) = none →
      ((script (attempt - 1)).within limit).result = .error e →
      left = 0 ∨ e.isRetryable = false →
      Step script policy limit cancel left attempt time
        ⟨.error (.transport e), attempt, attempt, [],
          time + ((script (attempt - 1)).within limit).delay⟩
  | cancelledAfter {left attempt time t : Nat} {e : TransportError} :
      cancelledBy cancel (time + ((script (attempt - 1)).within limit).delay) = none →
      ((script (attempt - 1)).within limit).result = .error e →
      e.isRetryable = true →
      cancelledBy cancel (time + ((script (attempt - 1)).within limit).delay +
        (policy.backoffAfter (UInt32.ofNat attempt)).toNat) = some t →
      Step script policy limit cancel (left + 1) attempt time
        ⟨.error .cancelled, attempt, attempt, [], t⟩
  | repeated {left attempt time next : Nat} {e : TransportError} :
      next = time + ((script (attempt - 1)).within limit).delay +
        (policy.backoffAfter (UInt32.ofNat attempt)).toNat →
      cancelledBy cancel next = none →
      ((script (attempt - 1)).within limit).result = .error e →
      e.isRetryable = true →
      Step script policy limit cancel (left + 1) attempt time
        { sendFrom script policy limit cancel left (attempt + 1) next with
          pauses := policy.backoffAfter (UInt32.ofNat attempt) ::
            (sendFrom script policy limit cancel left (attempt + 1) next).pauses }

theorem sendFrom_cases (left attempt time : Nat) :
    Step script policy limit cancel left attempt time
      (sendFrom script policy limit cancel left attempt time) := by
  unfold sendFrom
  split
  · rename_i hbefore
    obtain ⟨t, ht⟩ := Option.isSome_iff_exists.1 hbefore
    exact .cancelledBefore ht
  · rename_i hbefore
    have hbefore' : cancelledBy cancel time = none := Option.not_isSome_iff_eq_none.1 hbefore
    dsimp only
    split
    · rename_i t ht
      exact .cancelledDuring hbefore' ht
    · rename_i a hno ha
      exact .answered hno ha
    · rename_i e hno he
      exact .failed hno he (Or.inl rfl)
    · rename_i e left hno he
      split
      · rename_i hretry
        split
        · rename_i t ht
          exact .cancelledAfter hno he hretry ht
        · rename_i hnext
          exact .repeated rfl hnext he hretry
      · rename_i hretry
        exact .failed hno he (Or.inr (Bool.eq_false_iff.2 hretry))

/-- How a sending that begins with the attempt `attempt` follows the replies of the transport. -/
structure Follows (script : Script) (limit : UInt64) (cancel : Option Nat) (left attempt : Nat)
    (s : Sending) : Prop where
  begun : attempt ≤ s.attempts
  bounded : s.attempts ≤ attempt + left
  calls : s.calls ≤ s.attempts
  /-- The reply to the last call is the answer. -/
  answered : ∀ a, s.result = .ok a →
    s.calls = s.attempts ∧ ((script (s.attempts - 1)).within limit).result = .ok a
  /-- The reply to the last call is the failure. -/
  failed : ∀ e, s.result = .error (.transport e) →
    s.calls = s.attempts ∧ ((script (s.attempts - 1)).within limit).result = .error e
  cancelled : s.result = .error .cancelled → cancel.isSome = true
  /-- All replies before the last attempt were failures. -/
  earlier : ∀ k, attempt ≤ k + 1 → k + 1 < s.attempts →
    ∃ e, ((script k).within limit).result = .error e

/-- Behind the last attempt nothing has to be known about other replies. -/
theorem Follows.ofLast {left attempt : Nat} {s : Sending} (hattempts : s.attempts = attempt)
    (hcalls : s.calls ≤ s.attempts)
    (hanswered : ∀ a, s.result = .ok a →
      s.calls = s.attempts ∧ ((script (s.attempts - 1)).within limit).result = .ok a)
    (hfailed : ∀ e, s.result = .error (.transport e) →
      s.calls = s.attempts ∧ ((script (s.attempts - 1)).within limit).result = .error e)
    (hcancelled : s.result = .error .cancelled → cancel.isSome = true) :
    Follows script limit cancel left attempt s where
  begun := Nat.le_of_eq hattempts.symm
  bounded := by omega
  calls := hcalls
  answered := hanswered
  failed := hfailed
  cancelled := hcancelled
  earlier := by
    intro k h1 h2
    omega

/-- One attempt follows the replies if all that comes after it does. -/
theorem Step.follows {left attempt time : Nat} {s : Sending}
    (h : Step script policy limit cancel left attempt time s)
    (later : ∀ left' next, left = left' + 1 → Follows script limit cancel left' (attempt + 1)
      (sendFrom script policy limit cancel left' (attempt + 1) next)) :
    Follows script limit cancel left attempt s := by
  have isSome_of_cancelledBy : ∀ {time t : Nat},
      cancelledBy cancel time = some t → cancel.isSome = true := by
    intro time t ht
    rw [(cancelledBy_eq_some_iff.1 ht).1]
    rfl
  cases h with
  | cancelledBefore ht =>
      refine .ofLast rfl (Nat.sub_le _ _) ?_ ?_ fun _ => isSome_of_cancelledBy ht
      · intro a ha; cases ha
      · intro e he; cases he
  | cancelledDuring _ ht =>
      refine .ofLast rfl (Nat.le_refl _) ?_ ?_ fun _ => isSome_of_cancelledBy ht
      · intro a ha; cases ha
      · intro e he; cases he
  | answered _ ha =>
      refine .ofLast rfl (Nat.le_refl _) ?_ ?_ ?_
      · intro b hb; cases hb; exact ⟨rfl, ha⟩
      · intro e he; cases he
      · intro hc; cases hc
  | failed _ he _ =>
      refine .ofLast rfl (Nat.le_refl _) ?_ ?_ ?_
      · intro b hb; cases hb
      · intro e' he'; cases he'; exact ⟨rfl, he⟩
      · intro hc; cases hc
  | cancelledAfter _ _ _ ht =>
      refine .ofLast rfl (Nat.le_refl _) ?_ ?_ fun _ => isSome_of_cancelledBy ht
      · intro a ha; cases ha
      · intro e he; cases he
  | @repeated left' _ _ next e _ _ he _ =>
      have hlater := later left' next rfl
      refine ⟨?_, ?_, hlater.calls, hlater.answered, hlater.failed, hlater.cancelled, ?_⟩
      · exact Nat.le_of_succ_le hlater.begun
      · have hbounded := hlater.bounded
        rw [Nat.add_right_comm] at hbounded
        exact hbounded
      · -- the reply to this attempt failed, and the later ones are known
        intro k h1 h2
        rcases Nat.lt_or_ge k attempt with hk | hk
        · obtain rfl : k = attempt - 1 := by omega
          exact ⟨e, he⟩
        · exact hlater.earlier k (by omega) h2

theorem follows_sendFrom (left attempt time : Nat) :
    Follows script limit cancel left attempt
      (sendFrom script policy limit cancel left attempt time) := by
  induction left generalizing attempt time with
  | zero =>
      refine (sendFrom_cases 0 attempt time).follows fun left' next h => ?_
      omega
  | succ left ih =>
      refine (sendFrom_cases (left + 1) attempt time).follows fun left' next h => ?_
      obtain rfl : left = left' := by omega
      exact ih (attempt + 1) next

theorem toNat_attempts (policy : RetryPolicy) :
    policy.attempts.toNat = max 1 policy.maxAttempts.toNat := by
  show (if policy.maxAttempts ≤ 1 then 1 else policy.maxAttempts).toNat = _
  split
  · rename_i h
    rw [UInt32.le_iff_toNat_le] at h
    exact (Nat.max_eq_left h).symm
  · rename_i h
    rw [UInt32.le_iff_toNat_le] at h
    exact (Nat.max_eq_right (Nat.le_of_not_le h)).symm

theorem one_le_attempts (policy : RetryPolicy) : 1 ≤ policy.attempts.toNat := by
  rw [toNat_attempts]
  exact Nat.le_max_left _ _

/-- A sending begins one attempt at least, and as many as the policy has at most. -/
theorem follows_send :
    Follows script limit cancel (policy.attempts.toNat - 1) 1 (send script policy limit cancel) :=
  follows_sendFrom _ 1 0

theorem attempts_send_le :
    (send script policy limit cancel).attempts ≤ policy.attempts.toNat := by
  have hfollows : Follows script limit cancel (policy.attempts.toNat - 1) 1
      (send script policy limit cancel) := follows_send
  have hbounded := hfollows.bounded
  have hone := one_le_attempts policy
  omega

/-- The count of a record holds every number of attempts. -/
theorem toNat_ofNat_attempts_send :
    (UInt32.ofNat (send script policy limit cancel).attempts).toNat
      = (send script policy limit cancel).attempts := by
  have hle : (send script policy limit cancel).attempts ≤ policy.attempts.toNat := attempts_send_le
  exact UInt32.toNat_ofNat_of_lt (Nat.lt_of_le_of_lt hle policy.attempts.toNat_lt)

/-- An attempt is called unless it is cancelled before. -/
theorem Step.le_calls {left attempt time : Nat} {s : Sending}
    (h : Step script policy limit cancel left attempt time s)
    (hbefore : cancelledBy cancel time = none)
    (later : ∀ left' next, left = left' + 1 →
      attempt ≤ (sendFrom script policy limit cancel left' (attempt + 1) next).calls) :
    attempt ≤ s.calls := by
  cases h with
  | cancelledBefore ht =>
      rw [hbefore] at ht
      cases ht
  | cancelledDuring _ _ => exact Nat.le_refl attempt
  | answered _ _ => exact Nat.le_refl attempt
  | failed _ _ _ => exact Nat.le_refl attempt
  | cancelledAfter _ _ _ _ => exact Nat.le_refl attempt
  | repeated _ _ _ _ => exact later _ _ rfl

/-- Whatever attempt a sending ends with, the attempts before it were called. -/
theorem pred_le_calls (left attempt time : Nat) :
    attempt - 1 ≤ (sendFrom script policy limit cancel left attempt time).calls := by
  induction left generalizing attempt time with
  | zero =>
      cases hbefore : cancelledBy cancel time with
      | none =>
          refine Nat.le_trans (Nat.pred_le attempt)
            ((sendFrom_cases 0 attempt time).le_calls hbefore fun left' next h => ?_)
          omega
      | some t =>
          unfold sendFrom
          rw [hbefore]
          exact Nat.le_refl _
  | succ left ih =>
      cases hbefore : cancelledBy cancel time with
      | none =>
          refine Nat.le_trans (Nat.pred_le attempt)
            ((sendFrom_cases (left + 1) attempt time).le_calls hbefore fun left' next h => ?_)
          obtain rfl : left = left' := by omega
          exact ih (attempt + 1) next
      | some t =>
          unfold sendFrom
          rw [hbefore]
          exact Nat.le_refl _

/-- A request is sent unless its dispatch is cancelled at the start. -/
theorem calls_send_pos (h : cancel ≠ some 0) : 0 < (send script policy limit cancel).calls := by
  refine (sendFrom_cases _ 1 0).le_calls ?_ fun left' next _ => pred_le_calls left' 2 next
  cases hbefore : cancelledBy cancel 0 with
  | none => rfl
  | some t =>
      obtain ⟨rfl, ht⟩ := cancelledBy_eq_some_iff.1 hbefore
      exact absurd (congrArg some (Nat.le_zero.1 ht)) h

end ApiGateway.Dispatch
