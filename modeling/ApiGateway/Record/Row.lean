import ApiGateway.Record.Document

/-! # Records as rows of a table

A table has a header line and one line a record, with tabs between the cells. Tabs and line ends
inside a cell become spaces, so that every row has as many cells as the header.
-/

set_option autoImplicit false

namespace ApiGateway.Record

/-- The names of the columns. -/
def columns : List String :=
  ["id", "created_at", "provider", "endpoint", "environment", "method", "url", "status", "outcome",
    "error_kind", "latency_ms", "attempts", "subject", "replay_of"]

/-- A character as it stands in a cell. -/
def cellChar (c : Char) : Char := if c = '\t' ∨ c = '\n' ∨ c = '\r' then ' ' else c

/-- A text as it stands in a cell. -/
def cell (s : String) : String := String.ofList (s.toList.map cellChar)

/-- The cells of a record; what is absent leaves its cell empty. -/
def cells (r : Record) : List String :=
  [r.id.text, r.createdAt.text, r.provider, r.endpoint, r.environment, r.request.method,
    r.request.url, (r.status.map fun s => Nat.repr s.toNat).getD "", r.outcome.name,
    (r.error.map (·.kind.name)).getD "", Nat.repr r.latency.toNat, Nat.repr r.attempts.toNat,
    (r.subject.map (·.text)).getD "", (r.replayOf.map (·.text)).getD ""]

/-- Cells with tabs between them. -/
def tabbed (cells : List String) : String := "\t".intercalate cells

/-- The header line. -/
def header : String := tabbed columns

/-- The line of a record. -/
def row (r : Record) : String := tabbed (r.cells.map cell)

end ApiGateway.Record
