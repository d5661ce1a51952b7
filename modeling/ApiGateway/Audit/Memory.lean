import ApiGateway.Audit.Filter

/-! # Records in memory

The records of a provider stay together in the order in which they came, and the providers stand in
the order of their slugs. The index tells the provider of a record, so that no identifier comes
twice.
-/

set_option autoImplicit false

namespace ApiGateway.Audit

/-- A store of records in memory. -/
structure Memory where
  partitions : List (String × List Record) := []
  index : List (RecordId × String) := []

namespace Memory

/-- Adds a record at the end of its provider's records. -/
def add (r : Record) : List (String × List Record) → List (String × List Record)
  | [] => [(r.provider, [r])]
  | (p, records) :: rest =>
    if r.provider < p then (r.provider, [r]) :: (p, records) :: rest
    else if r.provider = p then (p, records ++ [r]) :: rest
    else (p, records) :: add r rest

/-- All records. -/
def records (m : Memory) : List Record := m.partitions.flatMap (·.2)

/-- Adds a record with a new identifier. -/
def append (r : Record) (m : Memory) : Memory × Except StoreError RecordId :=
  if (m.index.lookup r.id).isSome then (m, .error (.duplicate r.id))
  else (⟨add r m.partitions, (r.id, r.provider) :: m.index⟩, .ok r.id)

/-- The records of the provider that the index names for a record. -/
def partitionOf (id : RecordId) (m : Memory) : Except StoreError (String × List Record) :=
  match (m.index.lookup id).bind fun p => (m.partitions.lookup p).map (p, ·) with
  | some partition => .ok partition
  | none => .error (.notFound id)

/-- The record with an identifier. -/
def find (id : RecordId) (m : Memory) : Except StoreError Record := do
  let (_, records) ← m.partitionOf id
  match records.find? (·.id = id) with
  | some r => .ok r
  | none => .error (.notFound id)

/-- The records that a filter asks for. -/
def list (f : Filter) (m : Memory) : List Record :=
  let partitions := m.partitions.filter fun (p, _) => f.provider.all (· = p)
  f.page (partitions.flatMap fun (_, records) => records.filter f.accepts)

/-- Takes out all records from before an instant and counts them. -/
def purgeBefore (cutoff : Time.Instant) (m : Memory) : Memory × Nat :=
  let expired := m.records.filter (·.createdAt.isBefore cutoff)
  let ids := expired.map (·.id)
  ({ partitions := m.partitions.map fun (p, records) =>
        (p, records.filter fun r => !r.createdAt.isBefore cutoff)
     index := m.index.filter fun (id, _) => !ids.contains id }, expired.length)

/-- Adds a replay to a record, unless it is there already. -/
def addReplay (replay : RecordId) (r : Record) : Record :=
  if r.replays.contains replay then r else { r with replays := r.replays ++ [replay] }

/-- Changes the first record with an identifier. -/
def update (id : RecordId) (change : Record → Record) : List Record → List Record
  | [] => []
  | r :: rest => if r.id = id then change r :: rest else r :: update id change rest

/-- Attaches a replay to the record that it re-executed. -/
def attach (earlier replay : RecordId) (m : Memory) : Memory × Except StoreError Unit :=
  match m.partitionOf earlier with
  | .error e => (m, .error e)
  | .ok (p, records) =>
    if records.any (·.id = earlier) then
      let changed := update earlier (addReplay replay) records
      ({ m with partitions := m.partitions.map fun (q, rs) => (q, if q = p then changed else rs) },
        .ok ())
    else (m, .error (.notFound earlier))

end Memory

end ApiGateway.Audit
