/-! # Tables of character ranges

A property of characters above the ASCII block is held as a table of code point intervals, and a
simple case mapping as a table of runs. Both are searched from the front; a character that no row
covers has no property, or maps to itself.
-/

set_option autoImplicit false

namespace ApiGateway.Text

/-- Closed intervals of code points. -/
abbrev Ranges := Array (Nat × Nat)

/-- Some interval of the table holds the code point. -/
def Ranges.has (table : Ranges) (n : Nat) : Bool :=
  table.any fun (first, last) => first ≤ n && n ≤ last

/-- The code points `first`, `first + step`, …, `last`, each mapped `offset` further on. -/
structure CaseRun where
  first : Nat
  last : Nat
  step : Nat
  offset : Int

/-- The run takes in the code point. -/
def CaseRun.has (run : CaseRun) (n : Nat) : Bool :=
  run.first ≤ n && n ≤ run.last && (n - run.first) % run.step == 0

/-- The code point that a table of runs maps `n` to. -/
def mapByRuns (runs : Array CaseRun) (n : Nat) : Nat :=
  match runs.find? (·.has n) with
  | some run => (n + run.offset).toNat
  | none => n

end ApiGateway.Text
