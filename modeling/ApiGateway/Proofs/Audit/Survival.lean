import ApiGateway.Proofs.Audit.Soundness
import ApiGateway.Proofs.Record.Lines

/-! # What is appended stays

Every run of a journal keeps it sound, and keeps the lines of all records that do not expire in it
(`Sound.after`). A sound journal finds and lists what is read of the lines it has. So a record that
loses nothing in its line stays until it expires, now and after the journal is opened anew, if its
provider is any slug but the name of the lineage: `safe_append_iff`.
-/

set_option autoImplicit false

namespace ApiGateway.Audit

/-! ## Operations -/

/-- What an operation appends is of a provider that a catalog may have. -/
def Operation.Slugged : Operation → Prop
  | .append r => Catalog.isSlug r.provider = true
  | _ => True

/-- An operation is no purge in which a record expires. -/
def Operation.Spares (r : Record) : Operation → Prop
  | .purgeBefore cutoff => r.createdAt.isBefore cutoff = false
  | _ => True

namespace Journal

variable {folder : Folder} {ls : String → List String} {j : Journal}

/-! ## Runs -/

/-- A step keeps the lines of all records that it spares. -/
theorem Sound.perform (h : j.Sound ls) {op : Operation} (hop : op.Slugged) :
    ∃ j' ls', ((Store.journal j).perform op).1 = .journal j' ∧ j'.Sound ls' ∧
      ∀ r, record? (lineOf r) = some r → op.Spares r →
        ∀ p, lineOf r ∈ ls p → lineOf r ∈ ls' p := by
  cases op with
  | append r =>
      obtain ⟨ls', hsound, hkeeps, _⟩ := h.append hop
      exact ⟨_, ls', rfl, hsound, fun _ _ _ p hline => hkeeps p _ hline⟩
  | find id => exact ⟨j, ls, rfl, h, fun _ _ _ _ hline => hline⟩
  | list f => exact ⟨j, ls, rfl, h, fun _ _ _ _ hline => hline⟩
  | purgeBefore cutoff =>
      refine ⟨_, _, rfl, h.purgeBefore cutoff, fun r hreads hspares p hline => ?_⟩
      have hafter : r.createdAt.isBefore cutoff = false := hspares
      refine List.mem_filter.2 ⟨hline, ?_⟩
      unfold expired?
      rw [hreads, Option.filter_some_neg (by simp [hafter])]
      rfl
  | attach earlier replay =>
      exact ⟨_, ls, rfl, h.attach earlier replay, fun _ _ _ _ hline => hline⟩
  | reopen =>
      obtain ⟨j', hopen, hsound⟩ := h.ofFolder
      refine ⟨j', ls, ?_, hsound, fun _ _ _ _ hline => hline⟩
      have hreopen : Store.reopen (.journal j) = .ok (.journal j') :=
        congrArg (Except.map Store.journal) hopen
      unfold Store.perform
      rw [hreopen]

/-- A run keeps the lines of all records that it spares. -/
theorem Sound.after (h : j.Sound ls) {ops : List Operation} (hops : ∀ op ∈ ops, op.Slugged) :
    ∃ j' ls', (Store.journal j).after ops = .journal j' ∧ j'.Sound ls' ∧
      ∀ r, record? (lineOf r) = some r → (∀ op ∈ ops, op.Spares r) →
        ∀ p, lineOf r ∈ ls p → lineOf r ∈ ls' p := by
  -- on the operations, with the journal and its lines
  induction ops generalizing j ls with
  | nil => exact ⟨j, ls, rfl, h, fun _ _ _ _ hline => hline⟩
  | cons op ops ih =>
      obtain ⟨j₁, ls₁, hstep, hsound₁, hkeeps₁⟩ := h.perform (hops op List.mem_cons_self)
      obtain ⟨j₂, ls₂, hrun, hsound₂, hkeeps₂⟩ :=
        ih hsound₁ fun o ho => hops o (List.mem_cons_of_mem op ho)
      refine ⟨j₂, ls₂, ?_, hsound₂, fun r hreads hspares p hline => ?_⟩
      · rw [Store.after, hstep, hrun]
      · exact hkeeps₂ r hreads (fun o ho => hspares o (List.mem_cons_of_mem op ho)) p
          (hkeeps₁ r hreads (hspares op List.mem_cons_self) p hline)

/-! ## Reading -/

/-- A record with all its parts and perhaps further replays. -/
def Extends (r r' : Record) : Prop :=
  r' = { r with replays := r'.replays } ∧ r.replays <+: r'.replays

theorem extends_withReplays (j : Journal) (r : Record) : Extends r (j.withReplays r) := by
  refine ⟨rfl, ?_⟩
  have hfold : ∀ (replays before : List RecordId), before <+:
      replays.foldl (fun replays replay =>
        if replays.contains replay then replays else replays ++ [replay]) before := by
    intro replays
    induction replays with
    | nil => exact fun before => List.prefix_rfl
    | cons replay replays ih =>
        intro before
        refine List.IsPrefix.trans ?_ (ih _)
        dsimp only
        split
        · exact List.prefix_rfl
        · exact List.prefix_append _ _
  exact hfold _ _

/-- A journal gives a record to who asks for its identifier and to who asks for all records. -/
def Serves (j : Journal) (r : Record) : Prop :=
  ∃ r', Extends r r' ∧ j.find r.id = .ok r' ∧ .ok r' ∈ j.list {}

/-- A record has its line, and is there now and after the journal is opened anew. -/
structure Safe (j : Journal) (r : Record) : Prop where
  serves : j.Serves r
  reopened : ∃ j', ofFolder j.folder = .ok j' ∧ j'.Serves r
  line : ∃ lines, linesOf (fileName (partitionName r.provider)) j.folder = .ok lines ∧
    lineOf r ∈ lines

/-- A listing without a filter has the records of all lines. -/
theorem Sound.mem_list_iff (h : j.Sound ls) {r' : Record} :
    .ok r' ∈ j.list {} ↔
      ∃ p, ∃ line ∈ ls p, ∃ r, record? line = some r ∧ j.withReplays r = r' := by
  rw [list_eq_of_linesOf fun p hp => h.intact.linesOf_eq (h.intact.isPartition_of_mem hp)]
  simp only [List.mem_map, List.mem_flatMap, List.mem_filterMap, Except.ok.injEq]
  constructor
  · rintro ⟨r, ⟨p, _, line, hline, hr⟩, heq⟩
    exact ⟨p, line, hline, r, hr, heq⟩
  · rintro ⟨p, line, hline, r, hr, heq⟩
    exact ⟨r, ⟨p, h.intact.mem_partitions hline, line, hline, hr⟩, heq⟩

/-- What is found of a record is what is read of its line. -/
theorem Sound.find_eq (h : j.Sound ls) {r : Record} (hid : id? (lineOf r) = some r.id)
    {p : String} (hline : lineOf r ∈ ls p) :
    j.find r.id = ((record? (lineOf r)).map j.withReplays).elim (.error .serialization) .ok := by
  have hfind : (ls p).find? (fun line => id? line = some r.id) = some (lineOf r) := by
    cases hfind : (ls p).find? fun line => id? line = some r.id with
    | none =>
        rw [List.find?_eq_none] at hfind
        exact absurd (decide_eq_true hid) (hfind _ hline)
    | some line =>
        have hid' : id? line = some r.id := by simpa using List.find?_some hfind
        rw [h.line_unique hline (List.mem_of_find?_eq_some hfind) hid hid']
  unfold find
  rw [h.indexed p _ hline _ hid]
  dsimp only
  rw [h.intact.linesOf_eq (h.intact.isPartition p (List.ne_nil_of_mem hline))]
  simp only [bind, Except.bind, hfind]
  cases record? (lineOf r) <;> rfl

/-- A line that reads back is found and listed. -/
theorem Sound.serves (h : j.Sound ls) {r : Record} (hreads : record? (lineOf r) = some r)
    {p : String} (hline : lineOf r ∈ ls p) : j.Serves r := by
  refine ⟨j.withReplays r, extends_withReplays j r, ?_,
    h.mem_list_iff.2 ⟨p, _, hline, r, hreads, rfl⟩⟩
  rw [h.find_eq (id?_of_record?_lineOf hreads) hline, hreads]
  rfl

/-- A record that is found as it was has lost nothing in its line. -/
theorem Sound.lossless (h : j.Sound ls) {r : Record} (hregular : r.Regular)
    (hvalues : ∀ v ∈ r.values, v.Readable) {p : String} (hline : lineOf r ∈ ls p)
    (hserves : j.Serves r) : r.Lossless := by
  obtain ⟨r', ⟨hr', _⟩, hfound, _⟩ := hserves
  rw [h.find_eq (id?_lineOf_of_readable hvalues) hline] at hfound
  cases hx : record? (lineOf r) with
  | none =>
      rw [hx] at hfound
      cases hfound
  | some x =>
      rw [hx] at hfound
      exact lossless_of_record?_lineOf hregular hvalues hx ((Except.ok.inj hfound).trans hr')

theorem Sound.safe (h : j.Sound ls) {r : Record} (hreads : record? (lineOf r) = some r)
    (hline : lineOf r ∈ ls r.provider) : j.Safe r := by
  obtain ⟨j', hopen, hsound⟩ := h.ofFolder
  have hp := h.intact.isPartition _ (List.ne_nil_of_mem hline)
  refine ⟨h.serves hreads hline, ⟨j', hopen, hsound.serves hreads hline⟩, ls r.provider, ?_, hline⟩
  rw [partitionName_of_isSlug hp.slug]
  exact h.intact.linesOf_eq hp

/-! ## The name of the lineage -/

theorem partitions_eq_nil (h : ∀ q ∈ folder, partition? q.1 = none) : partitions folder = [] := by
  unfold partitions
  rw [List.filterMap_eq_nil_iff.2 h, List.mergeSort_nil]

theorem ofFolder_nil : ofFolder [] = .ok ⟨[], [], []⟩ := by
  unfold ofFolder
  rw [partitions_eq_nil fun _ hq => absurd hq List.not_mem_nil]
  rfl

/-- A record of the name of the lineage is not listed. -/
theorem Sound.not_serves_lineage (h : j.Sound ls) {r : Record}
    (hok : (j.append r).2 = .ok r.id) (hlineage : r.provider = "lineage") :
    ¬(j.append r).1.Serves r := by
  rintro ⟨r', ⟨hr', _⟩, _, hlisted⟩
  have hid' : r'.id = r.id := by rw [hr']
  have hslug : Catalog.isSlug r.provider = true := by rw [hlineage]; decide
  unfold Journal.append at hok hlisted
  dsimp only at hok hlisted
  rw [partitionName_of_isSlug hslug] at hok hlisted
  cases hlookup : j.index.lookup r.id with
  | some p =>
      rw [hlookup] at hok
      cases hok
  | none =>
      obtain ⟨text, happend⟩ := h.intact.appendLine_lineage (lineOf r)
      rw [hlookup, Option.isSome_none, if_neg Bool.false_ne_true, hlineage,
        show fileName "lineage" = lineageName from rfl, happend] at hlisted
      have hsound := h.appendLineage hlookup text "lineage" j.lineage
      obtain ⟨p, line, hline, x, hx, heq⟩ := hsound.mem_list_iff.1 hlisted
      -- the line would be in a partition under an identifier that the index did not tell
      obtain ⟨y, rfl⟩ := h.intact.isRecord p line hline
      have hindexed := h.indexed p _ hline _ (id?_of_record?_lineOf hx)
      have hxid : x.id = r.id := (congrArg Record.id heq).trans hid'
      rw [hxid, hlookup] at hindexed
      cases hindexed

/-- A record is appended after any run from an empty folder. It stays as it was, through every run
that it does not expire in, exactly if its provider does not have the name of the lineage and
nothing of the record is lost in its line. -/
theorem safe_append_iff {ops : List Operation} (hops : ∀ op ∈ ops, op.Slugged) {j₀ j : Journal}
    (hopen : ofFolder [] = .ok j₀) (hrun : (Store.journal j₀).after ops = .journal j) {r : Record}
    (hslug : Catalog.isSlug r.provider = true) (hregular : r.Regular)
    (hvalues : ∀ v ∈ r.values, v.Readable) (hok : (j.append r).2 = .ok r.id) :
    (∀ later : List Operation, (∀ op ∈ later, op.Slugged ∧ op.Spares r) →
        ∃ j', (Store.journal (j.append r).1).after later = .journal j' ∧ j'.Safe r) ↔
      r.provider ≠ "lineage" ∧ r.Lossless := by
  rw [ofFolder_nil] at hopen
  cases hopen
  obtain ⟨j₁, ls, hrun₁, hsound, _⟩ := sound_empty.after hops
  have hsame : j₁ = j := by
    rw [hrun₁] at hrun
    cases hrun
    rfl
  subst hsame
  obtain ⟨ls₁, hsound₁, _, hline⟩ := hsound.append hslug
  constructor
  · intro hsafe
    obtain ⟨j', hrun', hsafe'⟩ := hsafe [] fun _ hop => nomatch hop
    cases hrun'
    have hne : r.provider ≠ "lineage" := fun hlineage =>
      hsound.not_serves_lineage hok hlineage hsafe'.serves
    exact ⟨hne, hsound₁.lossless hregular hvalues (hline hok hne) hsafe'.serves⟩
  · rintro ⟨hne, hlossless⟩ later hlater
    have hreads := (record?_lineOf_iff hregular hvalues).2 hlossless
    obtain ⟨j₂, ls₂, hrun₂, hsound₂, hkeeps⟩ := hsound₁.after fun op hop => (hlater op hop).1
    refine ⟨j₂, hrun₂, hsound₂.safe hreads ?_⟩
    exact hkeeps r hreads (fun op hop => (hlater op hop).2) _ (hline hok hne)

/-- The record of an order of a provider with the name of the lineage. -/
def lineageOrder : Record := amountOrder "lineage" firstOrder ⟨1700000000, 0⟩

/-- The record of an order of another provider. -/
def acmeOrder : Record := amountOrder "acme" secondOrder ⟨1700000600, 0⟩

theorem regular_lineageOrder : lineageOrder.Regular :=
  regular_amountOrder _ _ ⟨by decide, by decide, by decide, by decide⟩

theorem regular_acmeOrder : acmeOrder.Regular :=
  regular_amountOrder _ _ ⟨by decide, by decide, by decide, by decide⟩

/-- Behind an order of the lineage an order of another provider outlives a replay and a purge. -/
theorem safe_append_replayedOrder :
    ∃ j', (Store.journal (((Journal.append lineageOrder ⟨[], [], []⟩).1.append acmeOrder).1)).after
        [.attach secondOrder firstOrder, .purgeBefore ⟨1700000300, 0⟩, .reopen,
          .append (acceptedOrder "acme-eu" firstOrder ⟨1700000900, 0⟩)] = .journal j' ∧
      j'.Safe acmeOrder := by
  have hok : ((Journal.append lineageOrder ⟨[], [], []⟩).1.append acmeOrder).2 =
      .ok acmeOrder.id := rfl
  have hslugged : ∀ op ∈ [Operation.append lineageOrder], op.Slugged := by
    simp only [List.mem_singleton, forall_eq]
    exact (by decide : Catalog.isSlug "lineage" = true)
  refine (safe_append_iff hslugged ofFolder_nil rfl (by decide) regular_acmeOrder
    (readable_amountOrder _ _) hok).2 ⟨by decide, lossless_amountOrder _ _⟩ _ ?_
  simp only [List.mem_cons, List.not_mem_nil, or_false, forall_eq_or_imp, forall_eq]
  exact ⟨⟨trivial, trivial⟩, ⟨trivial, rfl⟩, ⟨trivial, trivial⟩,
    (by decide : Catalog.isSlug "acme-eu" = true), trivial⟩

/-- An order of a provider with the name of the lineage is accepted, but never listed, and not found
any more after the journal is opened anew. -/
theorem lost_append_lineage :
    ∃ k k', Catalog.isSlug lineageOrder.provider = true ∧
      record? (lineOf lineageOrder) = some lineageOrder ∧
      Journal.append lineageOrder ⟨[], [], []⟩ = (k, .ok lineageOrder.id) ∧
      k.list {} = [] ∧ ofFolder k.folder = .ok k' ∧
      k'.find lineageOrder.id = .error (.notFound lineageOrder.id) ∧ k'.list {} = [] := by
  have hpartitions : ∀ text, partitions [(lineageName, .file text)] = [] := by
    intro text
    refine partitions_eq_nil fun q hq => ?_
    rw [List.mem_singleton.1 hq]
    exact (by decide : partition? lineageName = none)
  have hlist : ∀ (j : Journal) (text : String), j.folder = [(lineageName, .file text)] →
      j.list {} = [] := by
    intro j text hfolder
    unfold list
    rw [hfolder, hpartitions]
    rfl
  have hopen : ∀ text, ofFolder [(lineageName, .file text)] =
      .ok ⟨[(lineageName, .file text)], [], lineageOf ((lines text).filterMap lineage?)⟩ := by
    intro text
    unfold ofFolder
    rw [hpartitions]
    rfl
  have hreads : record? (lineOf lineageOrder) = some lineageOrder :=
    record?_lineOf_amountOrder _ _ regular_lineageOrder.createdAt
  exact ⟨⟨[(lineageName, .file (lineOf lineageOrder ++ "\n"))], [(lineageOrder.id, "lineage")],
    []⟩, _, by decide, hreads, rfl, hlist _ _ rfl, hopen _, rfl, hlist _ _ rfl⟩

end Journal

end ApiGateway.Audit
