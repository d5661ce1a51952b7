import ApiGateway.Audit.Journal
import ApiGateway.Audit.Memory

/-! # Stores of records

A store keeps its records in memory or in files. Both kinds have the same operations; only files
can fail in other ways than by an unknown or a repeated identifier.
-/

set_option autoImplicit false

namespace ApiGateway.Audit

/-- A store of records. -/
inductive Store where
  | memory (m : Memory)
  | journal (j : Journal)

namespace Store

/-- Adds a record with a new identifier. -/
def append (r : Record) : Store → Store × Except StoreError RecordId
  | .memory m => let (m, answer) := m.append r; (.memory m, answer)
  | .journal j => let (j, answer) := j.append r; (.journal j, answer)

/-- The record with an identifier. -/
def find (id : RecordId) : Store → Except StoreError Record
  | .memory m => m.find id
  | .journal j => j.find id

/-- The records that a filter asks for; an error may end them. -/
def list (f : Filter) : Store → List (Except StoreError Record)
  | .memory m => (m.list f).map .ok
  | .journal j => j.list f

/-- Takes out all records from before an instant and counts them. -/
def purgeBefore (cutoff : Time.Instant) : Store → Store × Except StoreError Nat
  | .memory m => let (m, count) := m.purgeBefore cutoff; (.memory m, .ok count)
  | .journal j => let (j, count) := j.purgeBefore cutoff; (.journal j, count)

/-- Attaches a replay to the record that it re-executed. -/
def attach (earlier replay : RecordId) : Store → Store × Except StoreError Unit
  | .memory m => let (m, answer) := m.attach earlier replay; (.memory m, answer)
  | .journal j => let (j, answer) := j.attach earlier replay; (.journal j, answer)

/-- The store after a process has closed it and opened it again. Memory does not outlive its
process, but the process of a store in memory never ends. -/
def reopen : Store → Except StoreError Store
  | .memory m => .ok (.memory m)
  | .journal j => (Journal.ofFolder j.folder).map .journal

end Store

end ApiGateway.Audit
