import ApiGateway.Proofs.Audit.Journal
import ApiGateway.Proofs.Audit.Memory
import ApiGateway.Proofs.Json.Integers

/-! # Both kinds of stores agree

A store stands for a ledger if its memory or its journal does. A step keeps that and answers what
the ledger answers (`Store.Holds.perform`), and so does a run (`Store.Holds.run`). A new memory and
the journal of an empty folder both stand for the empty ledger, so `stores_agree`: they answer all
operations alike, and their listings are the pages of one listing.
-/

set_option autoImplicit false

namespace ApiGateway.Audit

/-- An operation that a journal can perform without loss: what is appended can be kept. -/
def Operation.Storable : Operation → Prop
  | .append r => Journal.Storable r
  | _ => True

namespace Store

/-- The live records of a store are those of a ledger. -/
def Holds : Store → Ledger → Prop
  | .memory m, l => m.Holds l
  | .journal j, l => j.Holds l

variable {s : Store} {l : Ledger}

/-! ## Runs -/

theorem Holds.distinct (h : s.Holds l) : l.Distinct := by
  cases s with
  | memory m => exact Memory.Holds.distinct h
  | journal j => exact Journal.Holds.distinct h

theorem Holds.list_eq (h : s.Holds l) (f : Filter) : s.list f = (l.list f).map .ok := by
  cases s with
  | memory m => exact congrArg (List.map Except.ok) (Memory.Holds.list_eq h f)
  | journal j => exact Journal.Holds.list_eq h f

/-- A step answers what the ledger answers and leaves the records that are left there. -/
theorem Holds.perform (h : s.Holds l) {op : Operation} (hop : op.Storable) :
    (s.perform op).2 = (l.perform op).2 ∧ (s.perform op).1.Holds (l.perform op).1 := by
  cases s with
  | memory m =>
      have hm : m.Holds l := h
      cases op with
      | append r =>
          obtain ⟨hanswer, hleft⟩ := hm.append r
          exact ⟨congrArg Operation.Result.appended hanswer, hleft⟩
      | find id => exact ⟨congrArg Operation.Result.found (hm.find_eq id), hm⟩
      | list f => exact ⟨congrArg Operation.Result.listed (h.list_eq f), hm⟩
      | purgeBefore cutoff =>
          obtain ⟨hanswer, hleft⟩ := hm.purgeBefore cutoff
          exact ⟨congrArg (fun n => Operation.Result.purged (.ok n)) hanswer, hleft⟩
      | attach earlier replay =>
          obtain ⟨hanswer, hleft⟩ := hm.attach earlier replay
          exact ⟨congrArg Operation.Result.attached hanswer, hleft⟩
      | reopen => exact ⟨rfl, hm⟩
  | journal j =>
      have hj : j.Holds l := h
      cases op with
      | append r =>
          obtain ⟨hanswer, hleft⟩ := hj.append hop
          exact ⟨congrArg Operation.Result.appended hanswer, hleft⟩
      | find id => exact ⟨congrArg Operation.Result.found (hj.find_eq id), hj⟩
      | list f => exact ⟨congrArg Operation.Result.listed (h.list_eq f), hj⟩
      | purgeBefore cutoff =>
          obtain ⟨hanswer, hleft⟩ := hj.purgeBefore cutoff
          exact ⟨congrArg Operation.Result.purged hanswer, hleft⟩
      | attach earlier replay =>
          obtain ⟨hanswer, hleft⟩ := hj.attach earlier replay
          exact ⟨congrArg Operation.Result.attached hanswer, hleft⟩
      | reopen =>
          obtain ⟨j', hopened, hj'⟩ := hj.ofFolder
          have hreopen : Store.reopen (.journal j) = .ok (.journal j') :=
            congrArg (Except.map Store.journal) hopened
          unfold Store.perform
          rw [hreopen]
          exact ⟨rfl, hj'⟩

/-- A run answers what the ledger answers and leaves the records that are left there. -/
theorem Holds.run (h : s.Holds l) {ops : List Operation} (hops : ∀ op ∈ ops, op.Storable) :
    s.results ops = l.results ops ∧ (s.after ops).Holds (l.after ops) := by
  -- on the operations, with the ledger that the store stands for
  induction ops generalizing s l with
  | nil => exact ⟨rfl, h⟩
  | cons op ops ih =>
      obtain ⟨hanswer, hleft⟩ := h.perform (hops op List.mem_cons_self)
      obtain ⟨hanswers, hend⟩ := ih hleft fun o ho => hops o (List.mem_cons_of_mem op ho)
      refine ⟨?_, hend⟩
      rw [Store.results, Ledger.results, hanswer, hanswers]

/-! ## Listings -/

/-- A store lists the records of a ledger: each record once, by ascending providers and of one
provider in the order in which they came. -/
structure Lists (s : Store) (l : Ledger) : Prop where
  distinct : l.Distinct
  complete : l.byProvider.Perm l
  ascending : l.byProvider.Pairwise fun a b => a.provider ≤ b.provider
  ordered : ∀ p, l.byProvider.filter (·.provider = p) = l.filter (·.provider = p)
  list : ∀ f, s.list f = (f.page (l.byProvider.filter f.accepts)).map .ok
  /-- The first `k` pages of `n` records are the first `k * n` records of the full listing. -/
  pages : ∀ (f : Filter) (n k : Nat),
    ((List.range k).flatMap fun i =>
        s.list { f with offset := f.offset + i * n, limit := some n }) =
      (s.list { f with limit := none }).take (k * n)

theorem Holds.lists (h : s.Holds l) : s.Lists l where
  distinct := h.distinct
  complete := l.byProvider_perm
  ascending := l.pairwise_byProvider
  ordered := l.filter_byProvider
  list := h.list_eq
  pages := by
    intro f n k
    simp only [h.list_eq]
    rw [← List.map_flatMap, ← List.map_take]
    exact congrArg (List.map Except.ok) (Ledger.flatMap_page (l.byProvider.filter f.accepts) f n k)

end Store

/-! ## Agreement -/

/-- A new store in memory and the store of an empty folder answer every run alike, namely as a
ledger does, and after every run they list the records of this ledger. -/
theorem stores_agree (ops : List Operation) (h : ∀ op ∈ ops, op.Storable) :
    ∃ j, Journal.ofFolder [] = .ok j ∧
      (Store.memory {}).results ops = (Store.journal j).results ops ∧
      ∀ s ∈ [Store.memory {}, Store.journal j],
        s.results ops = Ledger.results [] ops ∧ (s.after ops).Lists (Ledger.after [] ops) := by
  obtain ⟨j, hopened, hj⟩ := Journal.holds_empty.ofFolder
  have hrun : ∀ s ∈ [Store.memory {}, Store.journal j],
      s.results ops = Ledger.results [] ops ∧ (s.after ops).Lists (Ledger.after [] ops) := by
    intro s hs
    have hholds : s.Holds [] := by
      rcases List.mem_cons.1 hs with rfl | hs
      · exact Memory.holds_empty
      · rw [List.mem_singleton.1 hs]
        exact hj
    obtain ⟨hanswers, hend⟩ := hholds.run h
    exact ⟨hanswers, hend.lists⟩
  have hmemory := (hrun _ List.mem_cons_self).1
  have hjournal := (hrun _ (List.mem_cons_of_mem _ List.mem_cons_self)).1
  exact ⟨j, hopened, hmemory.trans hjournal.symm, hrun⟩

/-- The record of an accepted order. -/
def acceptedOrder (provider : String) (id : RecordId) (createdAt : Time.Instant) : Record where
  id := id
  provider := provider
  endpoint := "order"
  environment := "live"
  request := { method := "POST", url := "https://acme.example/order" }
  response := some { status := 201 }
  status := some 201
  latency := 12
  attempts := 1
  outcome := .success
  error := none
  createdAt := createdAt
  subject := none
  replayOf := none
  replays := []
  inputs := {}

theorem readable_acceptedOrder (provider : String) (id : RecordId) (createdAt : Time.Instant) :
    (acceptedOrder provider id createdAt).toJson.Readable := by
  have hnumber : ∀ n : Nat, n ≤ 1000 → (Json.nat n).Readable := by
    intro n hn
    refine Json.Number.readable_int ?_
    show Binary64.minInt64 ≤ (n : Int) ∧ (n : Int) ≤ Binary64.maxUInt64
    unfold Binary64.minInt64 Binary64.maxUInt64
    omega
  have hresponse : (Json.obj [("status", .nat 201), ("headers", .obj [])]).Readable :=
    ⟨hnumber 201 (by decide), trivial, trivial⟩
  have hrequest : (Json.obj [("method", .str "POST"), ("url", .str "https://acme.example/order"),
      ("headers", .obj [])]).Readable := ⟨trivial, trivial, trivial, trivial⟩
  exact ⟨trivial, trivial, trivial, trivial, hrequest, hresponse, hnumber 201 (by decide),
    hnumber 12 (by decide), hnumber 1 (by decide), trivial, trivial, trivial, trivial⟩

/-- The identifier of an order. -/
def firstOrder : RecordId := .ofMoment 1700000000000 1

/-- The identifier of an order ten minutes later. -/
def secondOrder : RecordId := .ofMoment 1700000600000 1

/-- Orders of two providers, of which one is a replay of the other and outlives it. -/
def replayedOrder : List Operation :=
  [.append (acceptedOrder "acme-eu" firstOrder ⟨1700000000, 0⟩),
    .append (acceptedOrder "acme" secondOrder ⟨1700000600, 0⟩),
    .attach firstOrder secondOrder, .reopen, .list {},
    .purgeBefore ⟨1700000300, 0⟩, .find firstOrder, .reopen, .list {}]

theorem storable_replayedOrder : ∀ op ∈ replayedOrder, op.Storable := by
  have hfirst : Journal.Storable (acceptedOrder "acme-eu" firstOrder ⟨1700000000, 0⟩) :=
    ⟨⟨by decide, by decide⟩, Journal.record?_lineOf (readable_acceptedOrder _ _ _) rfl⟩
  have hsecond : Journal.Storable (acceptedOrder "acme" secondOrder ⟨1700000600, 0⟩) :=
    ⟨⟨by decide, by decide⟩, Journal.record?_lineOf (readable_acceptedOrder _ _ _) rfl⟩
  simp [replayedOrder, Operation.Storable, hfirst, hsecond]

theorem stores_agree_replayedOrder :
    ∃ j, Journal.ofFolder [] = .ok j ∧
      (Store.memory {}).results replayedOrder = (Store.journal j).results replayedOrder ∧
      ∀ s ∈ [Store.memory {}, Store.journal j],
        s.results replayedOrder = Ledger.results [] replayedOrder ∧
          (s.after replayedOrder).Lists (Ledger.after [] replayedOrder) :=
  stores_agree replayedOrder storable_replayedOrder

end ApiGateway.Audit
