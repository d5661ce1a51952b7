import ApiGateway.Audit.Store
import ApiGateway.Proofs.Keyed

/-! # What a store has to answer

A ledger is the list of the live records of a store, in the order in which they came. It answers the
operations of stores in the simplest way, and so says what they mean: `Ledger.perform`. A listing
takes the records by their providers, in the order of the slugs, and keeps the order of each
provider's records; `byProvider_eq_flatMap` gives it provider by provider, as stores keep them.
-/

set_option autoImplicit false

namespace ApiGateway.Audit

/-! ## Operations -/

/-- An operation on a store. -/
inductive Operation where
  | append (r : Record)
  | find (id : RecordId)
  | list (f : Filter)
  | purgeBefore (cutoff : Time.Instant)
  | attach (earlier replay : RecordId)
  /-- The store is closed and opened again. -/
  | reopen

/-- What an operation answers. -/
inductive Operation.Result where
  | appended (answer : Except StoreError RecordId)
  | found (answer : Except StoreError Record)
  | listed (answer : List (Except StoreError Record))
  | purged (answer : Except StoreError Nat)
  | attached (answer : Except StoreError Unit)
  | reopened (answer : Except StoreError Unit)

/-- Performs an operation on a store. A store that cannot be opened again stays as it is. -/
def Store.perform (s : Store) : Operation → Store × Operation.Result
  | .append r => ((s.append r).1, .appended (s.append r).2)
  | .find id => (s, .found (s.find id))
  | .list f => (s, .listed (s.list f))
  | .purgeBefore cutoff => ((s.purgeBefore cutoff).1, .purged (s.purgeBefore cutoff).2)
  | .attach earlier replay =>
    ((s.attach earlier replay).1, .attached (s.attach earlier replay).2)
  | .reopen =>
    match s.reopen with
    | .ok s' => (s', .reopened (.ok ()))
    | .error e => (s, .reopened (.error e))

/-- What a store answers to operations one after another. -/
def Store.results (s : Store) : List Operation → List Operation.Result
  | [] => []
  | op :: ops => (s.perform op).2 :: (s.perform op).1.results ops

/-- A store after operations. -/
def Store.after (s : Store) : List Operation → Store
  | [] => s
  | op :: ops => (s.perform op).1.after ops

/-! ## Ledgers -/

/-- The live records of a store in the order in which they came. -/
abbrev Ledger := List Record

namespace Ledger

/-- The records by ascending providers, those of one provider in their order. -/
def byProvider (l : Ledger) : Ledger := l.mergeSort fun a b => decide (a.provider ≤ b.provider)

/-- Adds a record with a new identifier. -/
def append (r : Record) (l : Ledger) : Ledger × Except StoreError RecordId :=
  if l.any (·.id = r.id) then (l, .error (.duplicate r.id)) else (l ++ [r], .ok r.id)

/-- The record with an identifier. -/
def find (id : RecordId) (l : Ledger) : Except StoreError Record :=
  match l.find? (·.id = id) with
  | some r => .ok r
  | none => .error (.notFound id)

/-- The page of the records by ascending providers that a filter accepts. -/
def list (f : Filter) (l : Ledger) : List Record := f.page (l.byProvider.filter f.accepts)

/-- Takes out all records from before an instant and counts them. -/
def purgeBefore (cutoff : Time.Instant) (l : Ledger) : Ledger × Nat :=
  (l.filter fun r => !r.createdAt.isBefore cutoff,
    (l.filter fun r => r.createdAt.isBefore cutoff).length)

/-- Adds a replay to the record with an identifier, unless it is there already. -/
def addReplay (earlier replay : RecordId) (r : Record) : Record :=
  if r.id = earlier then Memory.addReplay replay r else r

/-- Attaches a replay to the record that it re-executed. -/
def attach (earlier replay : RecordId) (l : Ledger) : Ledger × Except StoreError Unit :=
  if l.any (·.id = earlier) then (l.map (addReplay earlier replay), .ok ())
  else (l, .error (.notFound earlier))

/-- Performs an operation on a ledger. -/
def perform (l : Ledger) : Operation → Ledger × Operation.Result
  | .append r => ((l.append r).1, .appended (l.append r).2)
  | .find id => (l, .found (l.find id))
  | .list f => (l, .listed ((l.list f).map .ok))
  | .purgeBefore cutoff => ((l.purgeBefore cutoff).1, .purged (.ok (l.purgeBefore cutoff).2))
  | .attach earlier replay =>
    ((l.attach earlier replay).1, .attached (l.attach earlier replay).2)
  | .reopen => (l, .reopened (.ok ()))

/-- What a ledger answers to operations one after another. -/
def results (l : Ledger) : List Operation → List Operation.Result
  | [] => []
  | op :: ops => (l.perform op).2 :: results (l.perform op).1 ops

/-- A ledger after operations. -/
def after (l : Ledger) : List Operation → Ledger
  | [] => l
  | op :: ops => after (l.perform op).1 ops

/-! ## Listings provider by provider -/

/-- Lists in the order of their providers are equal if they have the same records of each. -/
theorem eq_of_filter_provider_eq {l m : Ledger}
    (hl : l.Pairwise fun a b => a.provider ≤ b.provider)
    (hm : m.Pairwise fun a b => a.provider ≤ b.provider)
    (h : ∀ p, l.filter (·.provider = p) = m.filter (·.provider = p)) : l = m := by
  induction l generalizing m with
  | nil =>
      cases m with
      | nil => rfl
      | cons b m =>
          have hb := h b.provider
          simp at hb
  | cons a l ih =>
      cases m with
      | nil =>
          have ha := h a.provider
          simp at ha
      | cons b m =>
          rw [List.pairwise_cons] at hl hm
          have hmem : ∀ {x : Record} {k k' : Ledger}, x ∈ k →
              k.filter (·.provider = x.provider) = k'.filter (·.provider = x.provider) →
              x ∈ k' := by
            intro x k k' hx heq
            have hx' : x ∈ k.filter (·.provider = x.provider) := by simp [hx]
            rw [heq] at hx'
            exact (List.mem_filter.1 hx').1
          -- the first records come from the least provider of the two lists, which is the same
          have hab : a.provider ≤ b.provider := by
            rcases List.mem_cons.1 (hmem List.mem_cons_self (h b.provider).symm) with heq | hb
            · exact heq ▸ String.le_refl _
            · exact hl.1 b hb
          have hba : b.provider ≤ a.provider := by
            rcases List.mem_cons.1 (hmem List.mem_cons_self (h a.provider)) with heq | ha
            · exact heq ▸ String.le_refl _
            · exact hm.1 a ha
          have hprovider := String.le_antisymm hab hba
          have hfirst := h a.provider
          simp only [List.filter_cons, hprovider, decide_true, if_true, List.cons.injEq] at hfirst
          obtain ⟨rfl, _⟩ := hfirst
          refine congrArg (a :: ·) (ih hl.2 hm.2 fun p => ?_)
          have hp := h p
          rw [List.filter_cons, List.filter_cons] at hp
          split at hp
          · exact (List.cons.inj hp).2
          · exact hp

theorem byProvider_perm (l : Ledger) : l.byProvider.Perm l := List.mergeSort_perm l _

theorem pairwise_byProvider (l : Ledger) :
    l.byProvider.Pairwise fun a b => a.provider ≤ b.provider := by
  have hsorted : l.byProvider.Pairwise fun a b => decide (a.provider ≤ b.provider) = true :=
    List.pairwise_mergeSort (by simpa using fun a b c => String.le_trans)
      (by simpa using fun a b => String.le_total _ _) l
  exact hsorted.imp fun h => by simpa using h

/-- Sorting keeps the order of each provider's records. -/
theorem filter_byProvider (l : Ledger) (p : String) :
    l.byProvider.filter (·.provider = p) = l.filter (·.provider = p) := by
  have hpairwise : (l.filter (·.provider = p)).Pairwise fun a b =>
      decide (a.provider ≤ b.provider) = true := by
    refine List.pairwise_of_forall_mem_list fun a ha b hb => ?_
    have ha' : a.provider = p := by simpa using (List.mem_filter.1 ha).2
    have hb' : b.provider = p := by simpa using (List.mem_filter.1 hb).2
    rw [ha', hb']
    exact decide_eq_true (String.le_refl p)
  have hsublist : (l.filter (·.provider = p)).Sublist l.byProvider :=
    List.sublist_mergeSort (by simpa using fun a b c => String.le_trans)
      (by simpa using fun a b => String.le_total _ _) hpairwise List.filter_sublist
  have hfilter := hsublist.filter (·.provider = p)
  rw [List.filter_filter] at hfilter
  simp only [Bool.and_self] at hfilter
  refine (hfilter.eq_of_length ?_).symm
  exact (l.byProvider_perm.filter (·.provider = p)).length_eq.symm

theorem pairwise_flatMap_filter {ps : List String} (hps : ps.Pairwise (· < ·)) (l : Ledger) :
    (ps.flatMap fun p => l.filter (·.provider = p)).Pairwise
      fun a b => a.provider ≤ b.provider := by
  have hmem : ∀ {p : String} {x : Record}, x ∈ l.filter (·.provider = p) → x.provider = p := by
    intro p x hx
    simpa using (List.mem_filter.1 hx).2
  rw [List.pairwise_flatMap]
  refine ⟨fun p _ => ?_, hps.imp fun {p q} hpq x hx y hy => ?_⟩
  · refine List.pairwise_of_forall_mem_list fun a ha b hb => ?_
    have hsame : a.provider = b.provider := (hmem ha).trans (hmem hb).symm
    exact hsame ▸ String.le_refl a.provider
  · rw [hmem hx, hmem hy]
    exact String.not_lt.1 (String.lt_asymm hpq)

theorem filter_flatMap_filter {ps : List String} (hps : ps.Nodup) (l : Ledger) (p : String) :
    (ps.flatMap fun q => l.filter (·.provider = q)).filter (·.provider = p) =
      if p ∈ ps then l.filter (·.provider = p) else [] := by
  induction ps with
  | nil => rfl
  | cons q ps ih =>
      rw [List.nodup_cons] at hps
      rw [List.flatMap_cons, List.filter_append, ih hps.2, List.filter_filter]
      by_cases hq : p = q
      · subst hq
        simp [hps.1]
      · have hnone : l.filter (fun r => decide (r.provider = p) && decide (r.provider = q)) =
            [] := by
          rw [List.filter_eq_nil_iff]
          intro r _ hr
          simp only [Bool.and_eq_true, decide_eq_true_eq] at hr
          exact hq (hr.1.symm.trans hr.2)
        rw [hnone, List.nil_append]
        simp [hq]

theorem nodup_of_ascending {ps : List String} (hps : ps.Pairwise (· < ·)) : ps.Nodup := by
  refine hps.imp fun {p q} hpq heq => ?_
  rw [heq] at hpq
  exact String.lt_irrefl q hpq

/-- The records by ascending providers are those of one provider after another. -/
theorem byProvider_eq_flatMap {ps : List String} (hps : ps.Pairwise (· < ·)) {l : Ledger}
    (hl : ∀ r ∈ l, r.provider ∈ ps) :
    l.byProvider = ps.flatMap fun p => l.filter (·.provider = p) := by
  have hnodup : ps.Nodup := nodup_of_ascending hps
  refine eq_of_filter_provider_eq (pairwise_byProvider l) (pairwise_flatMap_filter hps l) ?_
  intro p
  rw [filter_byProvider, filter_flatMap_filter hnodup]
  split
  · rfl
  · rename_i hp
    rw [List.filter_eq_nil_iff]
    intro r hr hrp
    have hprovider : r.provider = p := by simpa using hrp
    exact hp (hprovider ▸ hl r hr)

/-- Changes that keep the providers keep the order of the records. -/
theorem byProvider_map {change : Record → Record} (h : ∀ r, (change r).provider = r.provider)
    (l : Ledger) : byProvider (l.map change) = l.byProvider.map change := by
  refine (List.map_mergeSort fun a _ b _ => ?_).symm
  rw [h a, h b]

/-- Parts that give nothing may be left out of a listing. -/
theorem flatMap_filter_of_eq_nil {α β : Type} {P : α → Bool} {g : α → List β} {as : List α}
    (h : ∀ a ∈ as, P a = false → g a = []) : (as.filter P).flatMap g = as.flatMap g := by
  induction as with
  | nil => rfl
  | cons a as ih =>
      have ih' := ih fun b hb => h b (List.mem_cons_of_mem a hb)
      cases ha : P a with
      | true => rw [List.filter_cons_of_pos ha, List.flatMap_cons, List.flatMap_cons, ih']
      | false =>
          rw [List.filter_cons_of_neg (by simp [ha]), List.flatMap_cons, ih',
            h a List.mem_cons_self ha, List.nil_append]

/-- A filter accepts only records of the provider that it asks for. -/
theorem provider_of_accepts {f : Filter} {r : Record} (h : f.accepts r = true) :
    f.provider.all (· = r.provider) = true := by
  simp only [Filter.accepts, Bool.and_eq_true] at h
  exact h.1.1.1.1.1

/-! ## Identifiers -/

/-- No identifier comes twice. -/
def Distinct (l : Ledger) : Prop := (l.map (·.id)).Nodup

/-- The index tells the provider of every record. -/
def Indexes (index : List (RecordId × String)) (l : Ledger) : Prop :=
  ∀ id, index.lookup id = (l.find? (·.id = id)).map (·.provider)

theorem Distinct.filter {l : Ledger} (h : l.Distinct) (P : Record → Bool) :
    Distinct (l.filter P) :=
  h.sublist (List.filter_sublist.map _)

/-- The record with the identifier of a record is that record. -/
theorem Distinct.find?_id {l : Ledger} (h : l.Distinct) {r : Record} (hr : r ∈ l) :
    l.find? (·.id = r.id) = some r := by
  induction l with
  | nil => cases hr
  | cons a l ih =>
      unfold Distinct at h
      rw [List.map_cons, List.nodup_cons] at h
      rcases List.mem_cons.1 hr with rfl | hr
      · simp
      · have hne : a.id ≠ r.id := fun heq => h.1 (heq ▸ List.mem_map_of_mem hr)
        rw [List.find?_cons_of_neg (by simp [hne]), ih h.2 hr]

theorem find?_eq_none_iff {l : Ledger} {id : RecordId} :
    l.find? (·.id = id) = none ↔ id ∉ l.map (·.id) := by
  simp

theorem mem_of_find?_eq_some {l : Ledger} {id : RecordId} {r : Record}
    (h : l.find? (·.id = id) = some r) : r ∈ l ∧ r.id = id :=
  ⟨List.mem_of_find?_eq_some h, by simpa using List.find?_some h⟩

/-- A record is found among some of the records if it is one of them. -/
theorem Distinct.find?_filter {l : Ledger} (h : l.Distinct) (P : Record → Bool) (id : RecordId) :
    (l.filter P).find? (·.id = id) = (l.find? (·.id = id)).filter P := by
  cases hfind : l.find? (·.id = id) with
  | none =>
      rw [find?_eq_none_iff] at hfind
      rw [Option.filter_none, find?_eq_none_iff]
      exact fun hmem => hfind ((List.filter_sublist.map _).subset hmem)
  | some r =>
      obtain ⟨hr, rfl⟩ := mem_of_find?_eq_some hfind
      cases hP : P r with
      | true =>
          rw [Option.filter_some_pos hP]
          exact (h.filter P).find?_id (List.mem_filter.2 ⟨hr, hP⟩)
      | false =>
          rw [Option.filter_some_neg (by simp [hP]), find?_eq_none_iff]
          intro hmem
          obtain ⟨r', hr', heq⟩ := List.mem_map.1 hmem
          have hsame : some r' = some r := by
            rw [← h.find?_id hr, ← heq]
            exact (h.find?_id (List.mem_filter.1 hr').1).symm
          cases hsame
          rw [(List.mem_filter.1 hr').2] at hP
          cases hP

theorem any_id {l : Ledger} (id : RecordId) :
    l.any (·.id = id) = (l.find? (·.id = id)).isSome := by
  rw [Bool.eq_iff_iff, List.find?_isSome, List.any_eq_true]

theorem Indexes.isSome {index : List (RecordId × String)} {l : Ledger} (h : Indexes index l)
    (id : RecordId) : (index.lookup id).isSome = l.any (·.id = id) := by
  rw [h id, Option.isSome_map, any_id]

/-- The records with their providers are an index, in whatever order they stand. -/
theorem indexes_of_perm {l m : Ledger} (h : l.Distinct) (hperm : m.Perm l) :
    Indexes (m.map fun r => (r.id, r.provider)) l := by
  have hids : (m.map (·.id)).Perm (l.map (·.id)) := hperm.map _
  have hkeys : ((m.map fun r => (r.id, r.provider)).map (·.1)).Nodup := by
    rw [List.map_map]
    exact hids.nodup_iff.2 h
  intro id
  cases hfind : l.find? (·.id = id) with
  | none =>
      rw [find?_eq_none_iff, ← hids.mem_iff] at hfind
      rw [Option.map_none, lookup_eq_none_iff_not_mem, List.map_map]
      exact hfind
  | some r =>
      obtain ⟨hr, rfl⟩ := mem_of_find?_eq_some hfind
      exact lookup_eq_some_of_mem hkeys (List.mem_map.2 ⟨r, hperm.mem_iff.2 hr, rfl⟩)

theorem find?_append_singleton {l : Ledger} {r : Record} (id : RecordId) :
    (l ++ [r]).find? (·.id = id) =
      (l.find? (·.id = id)).or (if r.id = id then some r else none) := by
  rw [List.find?_append, List.find?_singleton]
  simp

theorem distinct_append_singleton {l : Ledger} (h : l.Distinct) {r : Record}
    (hr : l.any (·.id = r.id) = false) : Distinct (l ++ [r]) := by
  unfold Distinct
  rw [List.map_append, List.nodup_append]
  refine ⟨h, by simp, ?_⟩
  intro id hid id' hid' heq
  rw [List.any_eq_false] at hr
  obtain ⟨x, hx, hxid⟩ := List.mem_map.1 hid
  have hlast : id' = r.id := by simpa using hid'
  exact hr x hx (by simpa using hxid.trans (heq.trans hlast))

theorem Indexes.append {index : List (RecordId × String)} {l : Ledger} (h : Indexes index l)
    {r : Record} (hr : l.any (·.id = r.id) = false) :
    Indexes ((r.id, r.provider) :: index) (l ++ [r]) := by
  intro id
  rw [find?_append_singleton, List.lookup_cons]
  by_cases hid : id = r.id
  · subst hid
    rw [any_id, Option.isSome_eq_false_iff, Option.isNone_iff_eq_none] at hr
    simp [hr]
  · have hbeq : (id == r.id) = false := beq_eq_false_iff_ne.2 hid
    rw [hbeq, if_neg (Ne.symm hid), Option.or_none]
    exact h id

/-- The identifiers of the records that a purge takes out. -/
def expiredIds (cutoff : Time.Instant) (l : Ledger) : List RecordId :=
  (l.byProvider.filter (·.createdAt.isBefore cutoff)).map (·.id)

theorem length_expiredIds (cutoff : Time.Instant) (l : Ledger) :
    (l.expiredIds cutoff).length = (l.purgeBefore cutoff).2 := by
  unfold expiredIds
  rw [List.length_map]
  exact (l.byProvider_perm.filter _).length_eq

/-- A purge takes out the identifier of a record exactly if it takes out the record. -/
theorem Distinct.mem_expiredIds_iff {l : Ledger} (h : l.Distinct) {cutoff : Time.Instant}
    {r : Record} (hr : r ∈ l) :
    r.id ∈ l.expiredIds cutoff ↔ r.createdAt.isBefore cutoff = true := by
  unfold expiredIds
  simp only [List.mem_map, List.mem_filter, l.byProvider_perm.mem_iff, and_assoc]
  constructor
  · rintro ⟨x, hx, hbefore, hid⟩
    have hsame := h.find?_id hx
    rw [hid, h.find?_id hr] at hsame
    cases hsame
    exact hbefore
  · exact fun hbefore => ⟨r, hr, hbefore, rfl⟩

theorem Indexes.purgeBefore {index : List (RecordId × String)} {l : Ledger} (h : Indexes index l)
    (hl : l.Distinct) (cutoff : Time.Instant) :
    Indexes (index.filter fun i => !(l.expiredIds cutoff).contains i.1)
      (l.purgeBefore cutoff).1 := by
  intro id
  unfold Ledger.purgeBefore
  dsimp only
  rw [lookup_filter_fst (fun i => !(l.expiredIds cutoff).contains i), hl.find?_filter, h id]
  cases hfind : l.find? (·.id = id) with
  | none => simp
  | some r =>
      obtain ⟨hr, rfl⟩ := mem_of_find?_eq_some hfind
      have hmem : r.id ∈ l.expiredIds cutoff ↔ r.createdAt.isBefore cutoff = true :=
        hl.mem_expiredIds_iff hr
      cases hbefore : r.createdAt.isBefore cutoff with
      | true =>
          rw [Option.filter_some_neg (by simp [hbefore])]
          simp [hmem.2 hbefore]
      | false =>
          have hnot : r.id ∉ l.expiredIds cutoff := by
            rw [hmem, hbefore]
            exact Bool.false_ne_true
          rw [Option.filter_some_pos (by simp [hbefore])]
          simp [hnot]

@[simp]
theorem id_addReplay (earlier replay : RecordId) (r : Record) :
    (addReplay earlier replay r).id = r.id := by
  unfold addReplay Memory.addReplay
  split
  · split <;> rfl
  · rfl

@[simp]
theorem provider_addReplay (earlier replay : RecordId) (r : Record) :
    (addReplay earlier replay r).provider = r.provider := by
  unfold addReplay Memory.addReplay
  split
  · split <;> rfl
  · rfl

theorem map_id_addReplay (earlier replay : RecordId) (l : Ledger) :
    (l.map (addReplay earlier replay)).map (·.id) = l.map (·.id) := by
  rw [List.map_map]
  exact List.map_congr_left fun r _ => id_addReplay earlier replay r

theorem Indexes.attach {index : List (RecordId × String)} {l : Ledger} (h : Indexes index l)
    (earlier replay : RecordId) : Indexes index (l.map (addReplay earlier replay)) := by
  intro id
  rw [h id, List.find?_map, Option.map_map]
  simp [Function.comp_def]

/-! ## Pages -/

theorem page_map {α β : Type} (f : Filter) (g : α → β) (items : List α) :
    f.page (items.map g) = (f.page items).map g := by
  unfold Filter.page
  cases f.limit with
  | none => exact List.map_drop.symm
  | some limit =>
      dsimp only
      rw [List.map_take, List.map_drop]

/-- Consecutive pages of one length are the front of the whole listing. -/
theorem flatMap_page {α : Type} (items : List α) (f : Filter) (n k : Nat) :
    ((List.range k).flatMap fun i =>
        ({ f with offset := f.offset + i * n, limit := some n } : Filter).page items) =
      (({ f with limit := none } : Filter).page items).take (k * n) := by
  unfold Filter.page
  dsimp only
  induction k with
  | zero => simp
  | succ k ih =>
      rw [List.range_succ, List.flatMap_append, ih, Nat.succ_mul, List.take_add, List.drop_drop]
      simp

end Ledger

end ApiGateway.Audit
