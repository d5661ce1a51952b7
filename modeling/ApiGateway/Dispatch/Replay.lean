import ApiGateway.Dispatch.Pipeline

/-! # Replays

A replay dispatches the inputs of a record again, with the catalog and the secrets of today. A kept
model goes through the whole pipeline; without one a kept payload is signed and sent again. The
replay has a record of its own, which names the earlier one, and the earlier one is told of it.
-/

set_option autoImplicit false

namespace ApiGateway.Dispatch

open Catalog (Unavailability)

/-- Why a record cannot be replayed. -/
inductive ReplayError where
  | recordNotFound (id : RecordId)
  | providerDeactivated (provider endpoint : String) (reason : Unavailability)
  | inputsUnavailable (id : RecordId)
  | audit (error : Audit.StoreError)
  deriving DecidableEq

namespace ReplayError

/-- The wording of an error. -/
def message : ReplayError → String
  | .recordNotFound id => "dispatch record " ++ id.text ++ " not found"
  | .providerDeactivated provider endpoint reason =>
    "'" ++ provider ++ "/" ++ endpoint ++ "' can no longer be dispatched: " ++ reason.reason
  | .inputsUnavailable id => "dispatch record " ++ id.text ++ " kept no replayable inputs"
  | .audit error => error.message

/-- The name of the reason. -/
def reason : ReplayError → String
  | .recordNotFound _ => "record-not-found"
  | .providerDeactivated _ _ _ => "provider-deactivated"
  | .inputsUnavailable _ => "inputs-unavailable"
  | .audit _ => "audit"

/-- The error of a replay for the error of its dispatch. -/
def ofGatewayError : GatewayError → ReplayError
  | .configNotFound provider endpoint reason => .providerDeactivated provider endpoint reason
  | .audit error => .audit error

/-- The error of a replay whose earlier record cannot be found. -/
def ofFindError (id : RecordId) : Audit.StoreError → ReplayError
  | .notFound _ => .recordNotFound id
  | error => .audit error

end ReplayError

/-- What a replay of kept inputs starts from. -/
def basis? (i : ReplayInputs) : Option Basis :=
  match i.model, i.payload with
  | some model, _ => some (.model model)
  | none, some payload => some (.payload payload i.path (i.headers.getD []))
  | none, none => none

/-- Looks up what a replay calls. The earlier record has to be known, its endpoint has to be in use,
and it has to have kept inputs. -/
def replayCall (catalog : Catalog) (store : Audit.Store) (id : RecordId) :
    Except ReplayError Call := do
  let earlier ← (store.find id).mapError (ReplayError.ofFindError id)
  match catalog.dispatchable earlier.provider earlier.endpoint with
  | .error reason => .error (.providerDeactivated earlier.provider earlier.endpoint reason)
  | .ok _ =>
    match basis? earlier.inputs with
    | none => .error (.inputsUnavailable id)
    | some basis =>
      .ok ⟨earlier.provider, earlier.endpoint, basis, earlier.subject, some id⟩

/-- Dispatches what a replay calls and tells the earlier record. -/
def replayWith (g : Gateway) (store : Audit.Store) (earlier id : RecordId) (now : Time.Instant)
    (script : Script) (cancel : Option Nat) (call : Call) : Effect ReplayError :=
  let effect := dispatch g store id now script cancel call
  match effect.result with
  | .error error => { effect with result := .error (.ofGatewayError error) }
  | .ok report =>
    let (store, attached) := effect.store.attach earlier report.recordId
    { effect with store := store, result := (attached.map fun _ => report).mapError .audit }

/-- Replays a record. The catalog that the endpoint is looked up in before the dispatch need not be
the one that the dispatch finds. -/
def replay (checked : Catalog) (g : Gateway) (store : Audit.Store) (earlier id : RecordId)
    (now : Time.Instant) (script : Script) (cancel : Option Nat) : Effect ReplayError :=
  match replayCall checked store earlier with
  | .error error => ⟨store, [], 0, .error error⟩
  | .ok call => replayWith g store earlier id now script cancel call

end ApiGateway.Dispatch
