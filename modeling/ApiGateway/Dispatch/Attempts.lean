import ApiGateway.Catalog.Document
import ApiGateway.Transport

/-! # Attempts at sending

A request is attempted until the vendor answers, with any status, until an attempt fails in a way
that cannot get better, until the attempts of the policy are used up, or until the dispatch is
cancelled. Between attempts there is a pause.

What the vendor does is given as a script: the reply to each call, and the time that it takes. An
attempt ends at its time limit at the latest. Times are milliseconds from the start of the dispatch;
a cancellation comes first where it falls on the same time as something else.
-/

set_option autoImplicit false

namespace ApiGateway.Dispatch

open Catalog (RetryPolicy)

/-- What becomes of a call, and the time that it takes. -/
structure Reply where
  delay : Nat := 0
  result : Except TransportError Answer

/-- The reply to each call, the first call being number 0. -/
abbrev Script := Nat → Reply

/-- Why no answer was obtained. -/
inductive SendFailure where
  | transport (error : TransportError)
  | cancelled
  deriving DecidableEq

/-- How the sending of a request went. -/
structure Sending where
  result : Except SendFailure Answer
  /-- The number of attempts that were begun; the last one may have been cancelled. -/
  attempts : Nat
  /-- The number of calls that reached the transport. -/
  calls : Nat
  /-- The pauses that were waited for to their end. -/
  pauses : List UInt64
  /-- The time at the end. -/
  finish : Nat

/-- The reply as it is seen by a caller that waits no longer than `limit`. -/
def Reply.within (limit : UInt64) (r : Reply) : Reply :=
  if r.delay ≤ limit.toNat then r else ⟨limit.toNat, .error (.timeout limit)⟩

/-- The time of a cancellation that comes not later than `time`. -/
def cancelledBy (cancel : Option Nat) (time : Nat) : Option Nat := cancel.filter (· ≤ time)

/-- Begins the attempt with a number at a time, when `left` further attempts may follow it. -/
def sendFrom (script : Script) (policy : RetryPolicy) (limit : UInt64) (cancel : Option Nat) :
    (left attempt time : Nat) → Sending
  | left, attempt, time =>
    -- The attempt counts as begun, but its call never reaches the transport.
    if (cancelledBy cancel time).isSome then ⟨.error .cancelled, attempt, attempt - 1, [], time⟩
    else
      let reply := (script (attempt - 1)).within limit
      let time := time + reply.delay
      match cancelledBy cancel time, reply.result, left with
      | some cancelled, _, _ => ⟨.error .cancelled, attempt, attempt, [], cancelled⟩
      | none, .ok answer, _ => ⟨.ok answer, attempt, attempt, [], time⟩
      | none, .error e, 0 => ⟨.error (.transport e), attempt, attempt, [], time⟩
      | none, .error e, left + 1 =>
        if e.isRetryable then
          let pause := policy.backoffAfter (UInt32.ofNat attempt)
          let next := time + pause.toNat
          match cancelledBy cancel next with
          | some cancelled => ⟨.error .cancelled, attempt, attempt, [], cancelled⟩
          | none =>
            -- Only a pause that was waited for to its end is counted.
            let rest := sendFrom script policy limit cancel left (attempt + 1) next
            { rest with pauses := pause :: rest.pauses }
        else ⟨.error (.transport e), attempt, attempt, [], time⟩

/-- Sends a request at the start of a dispatch. -/
def send (script : Script) (policy : RetryPolicy) (limit : UInt64) (cancel : Option Nat) :
    Sending :=
  sendFrom script policy limit cancel (policy.attempts.toNat - 1) 1 0

end ApiGateway.Dispatch
