import ApiGateway.Proofs.Dispatch.Attempts
import Mathlib.Order.Bounds.Basic
import Mathlib.Data.Nat.Find

/-! # The schedule of a sending

As long as nothing settles a sending and nothing cancels it, its attempts follow each other at times
that the replies and the pauses alone decide: call `i` is made at `begun i`, and its reply is there
at `ended i` (`send_eq_prefixed`). The last attempt is the first one that settles the sending, or
the one that uses up the policy. `send_scheduled` says what comes out in the end, and what is left
of it where a cancellation comes before.
-/

set_option autoImplicit false

namespace ApiGateway.Dispatch

open Catalog (RetryPolicy)

/-! ## Times and replies -/

/-- The reply to the attempt with a number, as far as the sender waits for it. -/
def replyTo (script : Script) (limit : UInt64) (number : Nat) : Reply :=
  (script (number - 1)).within limit

/-- The attempt with a number brings an answer, or a failure that cannot get better. -/
def Settles (script : Script) (limit : UInt64) (number : Nat) : Prop :=
  1 ≤ number ∧ ∀ e, (replyTo script limit number).result = .error e → e.isRetryable = false

/-- The pause behind an attempt. -/
def pauseAfter (policy : RetryPolicy) (number : Nat) : UInt64 :=
  policy.backoffAfter (UInt32.ofNat number)

section

variable (script : Script) (policy : RetryPolicy) (limit : UInt64)

/-- The time at which call `i` is made, behind as many attempts and pauses. -/
def begun : Nat → Nat
  | 0 => 0
  | i + 1 =>
    begun i + (replyTo script limit (i + 1)).delay + (pauseAfter policy (i + 1)).toNat

/-- The time at which the reply to call `i` is there. -/
def ended (i : Nat) : Nat := begun script policy limit i + (replyTo script limit (i + 1)).delay

end

variable {script : Script} {policy : RetryPolicy} {limit : UInt64} {cancel : Option Nat}

theorem begun_le_ended (i : Nat) : begun script policy limit i ≤ ended script policy limit i :=
  Nat.le_add_right _ _

theorem ended_le_begun_succ (i : Nat) :
    ended script policy limit i ≤ begun script policy limit (i + 1) :=
  Nat.le_add_right _ _

theorem begun_mono : Monotone (begun script policy limit) :=
  monotone_nat_of_le_succ fun i => Nat.le_trans (begun_le_ended i) (ended_le_begun_succ i)

theorem cancelledBy_eq_none_of_le {time time' : Nat} (hle : time ≤ time')
    (h : cancelledBy cancel time' = none) : cancelledBy cancel time = none := by
  cases hcancel : cancelledBy cancel time with
  | none => rfl
  | some t =>
      obtain ⟨hsome, ht⟩ := cancelledBy_eq_some_iff.1 hcancel
      rw [cancelledBy_eq_some_iff.2 ⟨hsome, Nat.le_trans ht hle⟩] at h
      cases h

/-- A cancellation that has not come by some time comes after it. -/
theorem cancelledBy_eq_none_iff {time : Nat} :
    cancelledBy cancel time = none ↔ ∀ t, cancel = some t → time < t := by
  cases cancel with
  | none => simp [cancelledBy]
  | some t => simp [cancelledBy, Option.filter]

/-! ## One attempt -/

/-- An attempt that does not settle the sending fails in a way that may get better. -/
theorem exists_retryable {number : Nat} (hnumber : 1 ≤ number)
    (h : ¬ Settles script limit number) :
    ∃ e, (replyTo script limit number).result = .error e ∧ e.isRetryable = true := by
  refine Classical.byContradiction fun hnone => h ⟨hnumber, fun e he => ?_⟩
  exact Bool.eq_false_iff.2 fun hretry => hnone ⟨e, he, hretry⟩

namespace Step

variable {left i t : Nat} {s : Sending}

/-- The last attempt ends the sending with its reply. -/
theorem eq_of_last
    (hstep : Step script policy limit cancel left (i + 1) (begun script policy limit i) s)
    (hlast : left = 0 ∨ Settles script limit (i + 1))
    (hcancel : cancelledBy cancel (ended script policy limit i) = none) :
    s = ⟨(replyTo script limit (i + 1)).result.mapError .transport, i + 1, i + 1, [],
      ended script policy limit i⟩ := by
  have hbefore := cancelledBy_eq_none_of_le (begun_le_ended i) hcancel
  have hmore : ∀ {e left'}, (replyTo script limit (i + 1)).result = .error e →
      e.isRetryable = true → left ≠ left' + 1 := by
    rintro e left' he hretry rfl
    rcases hlast with hleft | hsettles
    · cases hleft
    · rw [hsettles.2 e he] at hretry
      cases hretry
  cases hstep with
  | cancelledBefore ht => cases hbefore.symm.trans ht
  | cancelledDuring _ ht => cases hcancel.symm.trans ht
  | answered _ ha =>
      have hreply : (replyTo script limit (i + 1)).result = _ := ha
      rw [hreply]
      rfl
  | failed _ he _ =>
      have hreply : (replyTo script limit (i + 1)).result = _ := he
      rw [hreply]
      rfl
  | cancelledAfter _ he hretry _ => exact absurd rfl (hmore he hretry)
  | repeated _ _ he hretry => exact absurd rfl (hmore he hretry)

/-- Another attempt is followed by a pause and the next one. -/
theorem eq_of_more
    (hstep : Step script policy limit cancel (left + 1) (i + 1) (begun script policy limit i) s)
    (hmore : ¬ Settles script limit (i + 1))
    (hcancel : cancelledBy cancel (begun script policy limit (i + 1)) = none) :
    s =
      let rest :=
        sendFrom script policy limit cancel left (i + 2) (begun script policy limit (i + 1))
      { rest with pauses := pauseAfter policy (i + 1) :: rest.pauses } := by
  obtain ⟨e, he, hretry⟩ := exists_retryable (Nat.le_add_left 1 i) hmore
  have hended := cancelledBy_eq_none_of_le (ended_le_begun_succ i) hcancel
  have hbefore := cancelledBy_eq_none_of_le (begun_le_ended i) hended
  cases hstep with
  | cancelledBefore ht => cases hbefore.symm.trans ht
  | cancelledDuring _ ht => cases hended.symm.trans ht
  | answered _ ha => cases he.symm.trans ha
  | failed _ he' hlast =>
      cases he.symm.trans he'
      rw [hretry] at hlast
      rcases hlast with hleft | hretry'
      · cases hleft
      · cases hretry'
  | cancelledAfter _ _ _ ht => cases hcancel.symm.trans ht
  | repeated hnext _ _ _ =>
      subst hnext
      rfl

/-- A call is the last one if a cancellation comes behind it, before its reply or in the pause. -/
theorem eq_of_cancelled
    (hstep : Step script policy limit (some t) left (i + 1) (begun script policy limit i) s)
    (ht : begun script policy limit i < t)
    (hcancel : t ≤ ended script policy limit i ∨
      (left ≠ 0 ∧ ¬ Settles script limit (i + 1) ∧ t ≤ begun script policy limit (i + 1))) :
    s = ⟨.error .cancelled, i + 1, i + 1, [], t⟩ := by
  have hlater : ∀ time, cancelledBy (some t) time = none → ¬ t ≤ time := fun time h =>
    Nat.not_le_of_lt (cancelledBy_eq_none_iff.1 h t rfl)
  cases hstep with
  | cancelledBefore h =>
      obtain ⟨hsome, hle⟩ := cancelledBy_eq_some_iff.1 h
      cases hsome
      exact absurd hle (Nat.not_le_of_lt ht)
  | cancelledDuring _ h =>
      cases (cancelledBy_eq_some_iff.1 h).1
      rfl
  | answered hno ha =>
      obtain ⟨-, hmore, -⟩ := hcancel.resolve_left (hlater _ hno)
      obtain ⟨e, he, -⟩ := exists_retryable (Nat.le_add_left 1 i) hmore
      cases he.symm.trans ha
  | failed hno he hlast =>
      obtain ⟨hleft, hmore, -⟩ := hcancel.resolve_left (hlater _ hno)
      obtain ⟨e, he', hretry⟩ := exists_retryable (Nat.le_add_left 1 i) hmore
      cases he'.symm.trans he
      rw [hlast.resolve_left hleft] at hretry
      cases hretry
  | cancelledAfter _ _ _ h =>
      cases (cancelledBy_eq_some_iff.1 h).1
      rfl
  | repeated hnext hno _ _ =>
      subst hnext
      rcases hcancel with hle | ⟨-, -, hle⟩
      · exact absurd (Nat.le_trans hle (ended_le_begun_succ i)) (hlater _ hno)
      · exact absurd hle (hlater _ hno)

end Step

/-! ## All attempts -/

/-- An attempt is the last one if it is the first that settles the sending, or the last that the
policy allows. -/
def IsLast (script : Script) (policy : RetryPolicy) (limit : UInt64) (n : Nat) : Prop :=
  IsLeast (insert (max 1 policy.maxAttempts.toNat) {k | Settles script limit k}) n

theorem exists_isLast (script : Script) (policy : RetryPolicy) (limit : UInt64) :
    ∃ n, IsLast script policy limit n := by
  classical
  have hexists : ∃ n, n ∈ insert (max 1 policy.maxAttempts.toNat) {k | Settles script limit k} :=
    ⟨_, Set.mem_insert _ _⟩
  exact ⟨Nat.find hexists, Nat.find_spec hexists, fun n hn => Nat.find_min' hexists hn⟩

namespace IsLast

variable {n : Nat}

theorem le_attempts (h : IsLast script policy limit n) : n ≤ policy.attempts.toNat := by
  rw [toNat_attempts]
  exact h.2 (Set.mem_insert _ _)

theorem one_le (h : IsLast script policy limit n) : 1 ≤ n := by
  rcases h.1 with rfl | hsettles
  · exact Nat.le_max_left _ _
  · exact hsettles.1

theorem not_settles (h : IsLast script policy limit n) {k : Nat} (hk : k < n) :
    ¬ Settles script limit k :=
  fun hsettles => Nat.not_le_of_lt hk (h.2 (Set.mem_insert_of_mem _ hsettles))

/-- None is left behind it, or it settles the sending. -/
theorem left_eq_zero_or (h : IsLast script policy limit n) :
    policy.attempts.toNat - n = 0 ∨ Settles script limit n := by
  rcases h.1 with hn | hsettles
  · rw [toNat_attempts, hn, Nat.sub_self]
    exact Or.inl rfl
  · exact Or.inr hsettles

end IsLast

/-- The pauses behind the first attempts, in their order. -/
def pauses (policy : RetryPolicy) (count : Nat) : List UInt64 :=
  (List.range count).map fun i => pauseAfter policy (i + 1)

/-- The attempts up to the last one follow each other as scheduled while no cancellation comes. -/
theorem send_eq_prefixed {n i : Nat} (h : IsLast script policy limit n) (hi : i < n)
    (hcancel : i = 0 ∨ cancelledBy cancel (begun script policy limit i) = none) :
    send script policy limit cancel =
      let rest := sendFrom script policy limit cancel (policy.attempts.toNat - (i + 1)) (i + 1)
        (begun script policy limit i)
      { rest with pauses := pauses policy i ++ rest.pauses } := by
  induction i with
  | zero => rfl
  | succ i ih =>
      have hcancel' : cancelledBy cancel (begun script policy limit (i + 1)) = none :=
        hcancel.resolve_left (Nat.succ_ne_zero i)
      have hbefore := cancelledBy_eq_none_of_le (begun_mono (Nat.le_succ i)) hcancel'
      have hleft : policy.attempts.toNat - (i + 1) = policy.attempts.toNat - (i + 2) + 1 := by
        have := h.le_attempts
        omega
      rw [ih (Nat.lt_of_succ_lt hi) (Or.inr hbefore), hleft,
        (sendFrom_cases _ _ _).eq_of_more (h.not_settles hi) hcancel']
      simp [pauses, List.range_succ]

/-- What comes out without a cancellation. -/
theorem send_of_last {n : Nat} (h : IsLast script policy limit n)
    (hcancel : cancelledBy cancel (ended script policy limit (n - 1)) = none) :
    send script policy limit cancel =
      ⟨(replyTo script limit n).result.mapError .transport, n, n, pauses policy (n - 1),
        ended script policy limit (n - 1)⟩ := by
  obtain ⟨i, rfl⟩ := Nat.exists_eq_add_of_le' h.one_le
  rw [Nat.add_sub_cancel] at hcancel ⊢
  rw [send_eq_prefixed h (Nat.lt_succ_self i)
    (Or.inr (cancelledBy_eq_none_of_le (begun_le_ended i) hcancel)),
    (sendFrom_cases _ _ _).eq_of_last h.left_eq_zero_or hcancel]
  simp

/-- The last of the calls that are made before some time. -/
theorem exists_lastCall {n t : Nat} (h : IsLast script policy limit n) (hpos : 0 < t) :
    ∃ i, i < n ∧ begun script policy limit i < t ∧
      ∀ j, i < j → j < n → t ≤ begun script policy limit j := by
  let before := fun i => begun script policy limit i < t
  refine ⟨Nat.findGreatest before (n - 1), ?_, ?_, fun j hij hj => ?_⟩
  · exact Nat.lt_of_le_of_lt (Nat.findGreatest_le _) (Nat.sub_lt h.one_le Nat.one_pos)
  · exact Nat.findGreatest_spec (P := before) (Nat.zero_le _) hpos
  · exact Nat.le_of_not_lt (Nat.findGreatest_is_greatest (P := before) hij (Nat.le_pred_of_lt hj))

/-- What is left of a sending that is cancelled at `t`, before the end of its last attempt `n`. -/
structure CutOff (script : Script) (policy : RetryPolicy) (limit : UInt64) (n t : Nat)
    (s : Sending) : Prop where
  result : s.result = .error .cancelled
  finish : s.finish = t
  one_le : 1 ≤ s.attempts
  bounded : s.attempts ≤ max 1 policy.maxAttempts.toNat
  called : s.calls ≤ s.attempts
  /-- The calls are those that are made before the cancellation. -/
  before : ∀ i, i < s.calls ↔ i < n ∧ begun script policy limit i < t

/-- What comes out with a cancellation before the end of the last attempt. -/
theorem cutOff_send {n t : Nat} (h : IsLast script policy limit n)
    (ht : t ≤ ended script policy limit (n - 1)) :
    CutOff script policy limit n t (send script policy limit (some t)) := by
  have hbound : n ≤ max 1 policy.maxAttempts.toNat := toNat_attempts policy ▸ h.le_attempts
  rcases Nat.eq_zero_or_pos t with rfl | hpos
  · -- cancelled at the start, the first attempt makes no call
    have hsend : send script policy limit (some 0) = ⟨.error .cancelled, 1, 0, [], 0⟩ := by
      unfold send sendFrom
      rfl
    rw [hsend]
    exact ⟨rfl, rfl, Nat.le_refl 1, Nat.le_max_left _ _, Nat.zero_le 1,
      fun i => iff_of_false (Nat.not_lt_zero i) fun h => Nat.not_lt_zero _ h.2⟩
  · obtain ⟨i, hi, hbegun, hafter⟩ := exists_lastCall h hpos
    have hnone : cancelledBy (some t) (begun script policy limit i) = none :=
      cancelledBy_eq_none_iff.2 fun t' ht' => Option.some.inj ht' ▸ hbegun
    have hlast : t ≤ ended script policy limit i ∨
        (policy.attempts.toNat - (i + 1) ≠ 0 ∧ ¬ Settles script limit (i + 1) ∧
          t ≤ begun script policy limit (i + 1)) := by
      rcases Nat.lt_or_ge (i + 1) n with hmore | hend
      · have hleft := h.le_attempts
        exact Or.inr ⟨by omega, h.not_settles hmore, hafter (i + 1) (Nat.lt_succ_self i) hmore⟩
      · obtain rfl : i = n - 1 := by omega
        exact Or.inl ht
    rw [send_eq_prefixed h hi (Or.inr hnone), (sendFrom_cases _ _ _).eq_of_cancelled hbegun hlast]
    refine ⟨rfl, rfl, Nat.le_add_left 1 i, Nat.le_trans hi hbound, Nat.le_refl _, fun j => ?_⟩
    constructor
    · intro hj
      have hle : j ≤ i := Nat.le_of_lt_succ hj
      exact ⟨Nat.lt_of_le_of_lt hle hi, Nat.lt_of_le_of_lt (begun_mono hle) hbegun⟩
    · rintro ⟨hj, hbefore⟩
      refine Nat.lt_succ_of_le (Nat.le_of_not_lt fun hij => ?_)
      exact Nat.not_le_of_lt hbefore (hafter j hij hj)

/-- Whatever the vendor does, a sending has a last attempt, and the numbers of its attempts fit the
counter. Without a cancellation by its end it makes a call for every attempt, waits for the pauses
between them and ends with the last reply. With one it is cut off at that time. -/
theorem send_scheduled (script : Script) (policy : RetryPolicy) (limit : UInt64) :
    ∃ n, IsLast script policy limit n ∧ (∀ k ≤ n, (UInt32.ofNat k).toNat = k) ∧
      ∀ cancel,
        (cancelledBy cancel (ended script policy limit (n - 1)) = none →
          send script policy limit cancel =
            ⟨(replyTo script limit n).result.mapError .transport, n, n, pauses policy (n - 1),
              ended script policy limit (n - 1)⟩) ∧
        ∀ t, cancelledBy cancel (ended script policy limit (n - 1)) = some t →
          CutOff script policy limit n t (send script policy limit cancel) := by
  obtain ⟨n, hlast⟩ := exists_isLast script policy limit
  refine ⟨n, hlast, fun k hk => ?_, fun cancel => ⟨send_of_last hlast, fun t ht => ?_⟩⟩
  · have hle : k ≤ policy.attempts.toNat := Nat.le_trans hk hlast.le_attempts
    exact UInt32.toNat_ofNat_of_lt (Nat.lt_of_le_of_lt hle policy.attempts.toNat_lt)
  · obtain ⟨rfl, hle⟩ := cancelledBy_eq_some_iff.1 ht
    exact cutOff_send hlast hle

/-- A vendor that refuses the first call, hangs at the second and answers the third. -/
def patchyVendor : Script
  | 0 => ⟨5, .error (.connect "refused")⟩
  | 1 => ⟨900, .ok ⟨200, [], "late"⟩⟩
  | _ => ⟨20, .ok ⟨503, [], "busy"⟩⟩

/-- Up to five attempts. -/
def fiveAttempts : RetryPolicy where
  maxAttempts := 5

theorem isLast_patchyVendor : IsLast patchyVendor fiveAttempts 250 3 := by
  refine ⟨Or.inr ⟨by decide, ?_⟩, ?_⟩
  · rintro e ⟨⟩
  · rintro k (rfl | ⟨hone, hsettles⟩)
    · decide
    · refine Nat.le_of_not_lt fun hk => ?_
      obtain rfl | rfl : k = 1 ∨ k = 2 := by omega
      · cases hsettles (.connect "refused") rfl
      · cases hsettles (.timeout 250) rfl

/-- The third attempt brings the answer. A cancellation before the first refusal leaves one call. -/
theorem send_scheduled_patchyVendor :
    send patchyVendor fiveAttempts 250 none =
        ⟨.ok ⟨503, [], "busy"⟩, 3, 3,
          [fiveAttempts.backoffAfter 1, fiveAttempts.backoffAfter 2],
          ended patchyVendor fiveAttempts 250 2⟩ ∧
      CutOff patchyVendor fiveAttempts 250 3 3 (send patchyVendor fiveAttempts 250 (some 3)) ∧
      (send patchyVendor fiveAttempts 250 (some 3)).calls = 1 := by
  obtain ⟨n, hlast, -, hsend⟩ := send_scheduled patchyVendor fiveAttempts 250
  obtain rfl : n = 3 := hlast.unique isLast_patchyVendor
  -- the first reply comes after five milliseconds, and the last one later
  have hbegun : 5 ≤ begun patchyVendor fiveAttempts 250 1 := Nat.le_add_right 5 _
  have hended : 3 ≤ ended patchyVendor fiveAttempts 250 2 := by
    have hmono : begun patchyVendor fiveAttempts 250 1 ≤ begun patchyVendor fiveAttempts 250 2 :=
      begun_mono (by decide)
    exact Nat.le_trans (by omega) (begun_le_ended 2)
  have hcut := (hsend (some 3)).2 3 (cancelledBy_eq_some_iff.2 ⟨rfl, hended⟩)
  refine ⟨(hsend none).1 rfl, hcut, ?_⟩
  have hfirst := (hcut.before 0).2 ⟨by decide, by decide⟩
  have hsecond := mt (hcut.before 1).1 fun h => by omega
  omega

end ApiGateway.Dispatch
