import ApiGateway.Record.Basic

/-! # Looking up records

`StoreError` is what may go wrong in a store of records, and `Filter` says which records a listing
gives: those that match, less the first `offset` of them, and of these at most `limit`.
-/

set_option autoImplicit false

namespace ApiGateway.Audit

/-- What may go wrong in a store. -/
inductive StoreError where
  | notFound (id : RecordId)
  | duplicate (id : RecordId)
  /-- A file cannot be read or written. -/
  | io
  /-- The line of a record cannot be read as a whole. -/
  | serialization
  deriving DecidableEq

/-- The wording of what went wrong. -/
def StoreError.message : StoreError → String
  | .notFound id => "dispatch record " ++ id.text ++ " not found"
  | .duplicate id => "dispatch record " ++ id.text ++ " already exists"
  | .io => "audit I/O error"
  | .serialization => "audit serialization error"

/-- Which records are looked up. What is not given matches everything. -/
structure Filter where
  provider : Option String := none
  endpoint : Option String := none
  outcome : Option Outcome := none
  subject : Option Subject := none
  /-- The earliest instant of a record. -/
  since : Option Time.Instant := none
  /-- The instant that every record comes before; it is not matched itself. -/
  before : Option Time.Instant := none
  offset : Nat := 0
  limit : Option Nat := none

namespace Filter

/-- A record matches; pages do not count. -/
def accepts (f : Filter) (r : Record) : Bool :=
  f.provider.all (· = r.provider) && f.endpoint.all (· = r.endpoint) &&
    f.outcome.all (· = r.outcome) && f.subject.all (r.subject = some ·) &&
    f.since.all (fun t => !r.createdAt.isBefore t) && f.before.all (fun t => r.createdAt.isBefore t)

/-- The page of a listing. -/
def page {α : Type} (f : Filter) (items : List α) : List α :=
  match f.limit with
  | none => items.drop f.offset
  | some limit => (items.drop f.offset).take limit

end Filter

end ApiGateway.Audit
