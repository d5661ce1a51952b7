import ApiGateway.Proofs.Audit.Replays
import ApiGateway.Proofs.Audit.Survival
import ApiGateway.Proofs.Catalog.Slugs
import ApiGateway.Proofs.Dispatch.Recording

/-! # What a replay changes

`replay_cases` says once what a replay can do: nothing, or one run whose record is appended and, if
that succeeds, attached to the earlier record. So a replay that is refused has changed nothing, at
whichever of its two looks into the catalog that came; and one that succeeds leaves the store with
one record more and the earlier record told of it, as far as the store retains the record
(`replay_accounted`).
-/

set_option autoImplicit false

namespace ApiGateway.Dispatch

open Catalog (Provider Endpoint)

/-- The record is not known, its endpoint may not be used, or it kept no inputs. -/
def ReplayError.IsRefusal : ReplayError → Prop
  | .recordNotFound _ | .providerDeactivated _ _ _ | .inputsUnavailable _ => True
  | .audit _ => False

/-- A record tells of a replay of an earlier one, at the same endpoint and for the same subject. -/
structure Repeats (earlier id : RecordId) (original record : Record) : Prop where
  id : record.id = id
  replayOf : record.replayOf = some earlier
  provider : record.provider = original.provider
  endpoint : record.endpoint = original.endpoint
  subject : record.subject = original.subject

/-- The call of a replay. -/
def callAgain (earlier : RecordId) (original : Record) (basis : Basis) : Call where
  provider := original.provider
  endpoint := original.endpoint
  basis := basis
  subject := original.subject
  replayOf := some earlier

section

variable {checked : Catalog} {g : Gateway} {p : Provider} {e : Endpoint} {store : Audit.Store}
  {earlier id : RecordId} {now : Time.Instant} {script : Script} {cancel : Option Nat}
  {call : Call}

/-! ## The course of a replay -/

/-- What a replay calls comes from the earlier record. -/
theorem exists_of_replayCall (h : replayCall checked store earlier = .ok call) :
    ∃ original basis, store.find earlier = .ok original ∧ basis? original.inputs = some basis ∧
      call = callAgain earlier original basis := by
  unfold replayCall at h
  obtain ⟨original, hfound, h⟩ := bind_eq_ok_iff.1 h
  cases hfind : store.find earlier with
  | error error =>
      rw [hfind] at hfound
      cases hfound
  | ok found =>
      rw [hfind] at hfound
      cases hfound
      split at h
      · cases h
      · split at h
        · cases h
        · rename_i basis hbasis
          exact ⟨original, basis, rfl, hbasis, (Except.ok.inj h).symm⟩

/-- What a replay leaves behind once its dispatch has run. -/
def replayEffect (store : Audit.Store) (earlier : RecordId) (r : Run) : Effect ReplayError :=
  match (store.append r.record).2 with
  | .error error => ⟨(store.append r.record).1, r.requests, r.finish, .error (.audit error)⟩
  | .ok _ =>
    ⟨((store.append r.record).1.attach earlier r.record.id).1, r.requests, r.finish,
      (((store.append r.record).1.attach earlier r.record.id).2.map fun _ => r.report).mapError
        .audit⟩

theorem replayWith_of_usable
    (h : g.catalog.dispatchable call.provider call.endpoint = .ok (p, e)) :
    replayWith g store earlier id now script cancel call =
      replayEffect store earlier (runOn g p e id now script cancel call) := by
  have hdispatch : dispatch g store id now script cancel call = _ := dispatch_of_usable h
  unfold replayWith replayEffect
  rw [hdispatch]
  dsimp only
  cases (store.append (runOn g p e id now script cancel call).record).2 <;> rfl

/-- A replay does nothing, or runs a dispatch of what the earlier record names. -/
theorem replay_cases (checked : Catalog) (g : Gateway) (store : Audit.Store)
    (earlier id : RecordId) (now : Time.Instant) (script : Script) (cancel : Option Nat) :
    let effect := replay checked g store earlier id now script cancel
    (∃ error, effect = ⟨store, [], 0, .error error⟩) ∨
      ∃ original basis p e, store.find earlier = .ok original ∧
        basis? original.inputs = some basis ∧
        g.catalog.Usable original.provider original.endpoint p e ∧
        effect = replayEffect store earlier
          (runOn g p e id now script cancel (callAgain earlier original basis)) := by
  intro effect
  cases hcall : replayCall checked store earlier with
  | error error =>
      refine Or.inl ⟨error, ?_⟩
      show replay checked g store earlier id now script cancel = _
      unfold replay
      rw [hcall]
  | ok call =>
      have heffect : effect = replayWith g store earlier id now script cancel call := by
        show replay checked g store earlier id now script cancel = _
        unfold replay
        rw [hcall]
      obtain ⟨original, basis, hfound, hbasis, rfl⟩ := exists_of_replayCall hcall
      cases huse : g.catalog.dispatchable original.provider original.endpoint with
      | error reason =>
          -- the catalog has been replaced since the first look
          have hdispatch : dispatch g store id now script cancel
              (callAgain earlier original basis) = _ := dispatch_of_refused huse
          refine Or.inl ⟨.providerDeactivated original.provider original.endpoint reason, ?_⟩
          rw [heffect]
          unfold replayWith
          rw [hdispatch]
          rfl
      | ok found =>
          obtain ⟨p, e⟩ := found
          refine Or.inr ⟨original, basis, p, e, hfound, hbasis,
            Catalog.dispatchable_eq_ok_iff.1 huse, ?_⟩
          rw [heffect]
          exact replayWith_of_usable huse

/-- Once the dispatch has run, only the store can fail. -/
theorem not_isRefusal_of_replayEffect {r : Run} {error : ReplayError}
    (h : (replayEffect store earlier r).result = .error error) : ¬error.IsRefusal := by
  unfold replayEffect at h
  split at h
  · cases h
    exact not_false
  · cases hattach : ((store.append r.record).1.attach earlier r.record.id).2 with
    | error e =>
        rw [hattach] at h
        cases h
        exact not_false
    | ok _ =>
        rw [hattach] at h
        cases h

/-- What a replay with a report has done to the store. -/
theorem replayEffect_eq_ok {r : Run} {report : Report}
    (h : (replayEffect store earlier r).result = .ok report) :
    report = r.report ∧ (store.append r.record).2 = .ok r.record.id ∧
      ((store.append r.record).1.attach earlier r.record.id).2 = .ok () ∧
      (replayEffect store earlier r).store =
        ((store.append r.record).1.attach earlier r.record.id).1 ∧
      (replayEffect store earlier r).requests = r.requests := by
  unfold replayEffect at h ⊢
  cases happend : (store.append r.record).2 with
  | error error =>
      rw [happend] at h
      cases h
  | ok id =>
      rw [happend] at h
      cases hattach : ((store.append r.record).1.attach earlier r.record.id).2 with
      | error error =>
          dsimp only at h
          rw [hattach] at h
          cases h
      | ok _ =>
          dsimp only at h
          rw [hattach] at h
          cases h
          exact ⟨rfl, congrArg Except.ok (Audit.Store.id_of_append happend), rfl, rfl, rfl⟩

/-! ## The records of a replay -/

theorem distinct_of_basis? {i : ReplayInputs} {basis : Basis} (h : basis? i = some basis)
    (hdistinct : ∀ hs, i.headers = some hs → hs.Distinct) : basis.Distinct := by
  unfold basis? at h
  split at h
  · cases h
    trivial
  · cases h
    show (i.headers.getD []).Distinct
    cases hheaders : i.headers with
    | none => exact Headers.distinct_nil
    | some hs => exact hdistinct hs hheaders
  · cases h

/-- What a journal finds is read from a line, so that its headers are distinct. -/
theorem distinct_of_find {j : Audit.Journal} {original : Record}
    (hfound : j.find earlier = .ok original) :
    ∀ hs, original.inputs.headers = some hs → hs.Distinct := by
  obtain ⟨line, x, _, hread, rfl⟩ := Audit.Journal.exists_line_of_find hfound
  obtain ⟨document, _, hx⟩ := Option.bind_eq_some_iff.1 hread
  have hdistinct : ∀ hs, x.inputs.headers = some hs → hs.Distinct := Record.distinct_of_ofJson? hx
  exact hdistinct

/-- The record of a replay names what the earlier record names. -/
theorem repeats_runOn {document : CatalogDocument} (hcompile : document.compile = .ok g.catalog)
    {original : Record} (basis : Basis)
    (huse : g.catalog.Usable original.provider original.endpoint p e) :
    Repeats earlier id original
      (runOn g p e id now script cancel (callAgain earlier original basis)).record := by
  have hidentified : Identified p e id now (callAgain earlier original basis)
      (runOn g p e id now script cancel (callAgain earlier original basis)).record :=
    identified_runOn
  exact {
    id := hidentified.id
    replayOf := hidentified.replayOf
    provider := hidentified.provider.trans (Catalog.slug_of_provider hcompile huse.provider)
    endpoint := hidentified.endpoint.trans
      (Catalog.slug_of_endpoint hcompile huse.provider huse.endpoint)
    subject := hidentified.subject }

/-- A replay whose dispatch and telling succeed is in the store just if the store retains its
record. -/
theorem replays_iff_retains {original record : Record} {store' : Audit.Store}
    (hproper : store.Proper) (hunused : store.Unused id)
    (hslug : Catalog.isSlug record.provider = true)
    (hregular : (∀ hs, original.inputs.headers = some hs → hs.Distinct) → record.Regular)
    (hrepeats : Repeats earlier id original record) (hfound : store.find earlier = .ok original)
    (happend : (store.append record).2 = .ok record.id)
    (hattach : ((store.append record).1.attach earlier record.id).2 = .ok ())
    (hstore : store' = ((store.append record).1.attach earlier record.id).1)
    (hlegible : store.Legible record) :
    (∃ replay, Repeats earlier id original replay ∧
        store.Replays store' earlier original replay) ↔ store.Retains record := by
  have hid := hrepeats.id
  subst hid hstore
  have htells : Audit.Store.Tells (store.append record).1 _ earlier record.id :=
    (hproper.append record).tells_attach hattach
  have huntold : record.id ∉ original.replays := hunused.untold earlier original hfound
  cases store with
  | memory m =>
      obtain ⟨l, hl⟩ := hproper
      exact iff_of_true ⟨record, hrepeats, (hl.adds_append happend).replays htells hfound huntold⟩
        trivial
  | journal j =>
      have hregular' : record.Regular := hregular (distinct_of_find hfound)
      constructor
      · rintro ⟨replay, hrepeats', hreplays⟩
        refine Classical.byContradiction fun hnot => ?_
        have hlost := Audit.Journal.Proper.lost_append hproper hslug hregular' hlegible
          (hunused.unwritten j rfl record.provider) happend hnot
        exact htells.not_replays hlost hrepeats'.id hreplays
      · intro hretains
        have hadds := Audit.Journal.Proper.adds_append hproper hslug hregular' hlegible
          (hunused.unwritten j rfl record.provider) happend hretains
        exact ⟨j.withReplays record.withoutNulls, ⟨rfl, hrepeats.replayOf, hrepeats.provider,
          hrepeats.endpoint, hrepeats.subject⟩, hadds.replays htells hfound huntold⟩

/-- A journal does not list the replay of a record of the provider with the name of the lineage. -/
theorem list_of_lineage {j : Audit.Journal} {record : Record} (hjournal : store = .journal j)
    (hproper : store.Proper) (hlineage : record.provider = "lineage")
    (happend : (store.append record).2 = .ok record.id)
    (hattach : ((store.append record).1.attach earlier record.id).2 = .ok ()) :
    ((store.append record).1.attach earlier record.id).1.list {} =
      (store.list {}).map (Except.map (Audit.Ledger.addReplay earlier record.id)) := by
  have hsame : (store.append record).1.list {} = store.list {} := by
    subst hjournal
    exact Audit.Journal.Proper.list_append_lineage hproper hlineage happend
  rw [((hproper.append record).tells_attach hattach).listed, hsame]

end

/-- **Replays in a store.** A replay that is refused has sent nothing and left the store as it was,
whatever became of the catalog between its two looks into it. A replay with a report has run one
dispatch, whose record names the earlier record and its provider, endpoint and subject; it has
appended this record and told the earlier one. The store then has exactly one record more, the
earlier one has been told of it once, and all other records are as they were, just if the store
retains the record: memory always does, and a journal does if the record is not of the provider
with the name of the lineage, the file of its provider does not end within a line, and its values
are not too deep. -/
theorem replay_accounted {document : CatalogDocument} {g : Gateway} {store : Audit.Store}
    {id : RecordId} {now : Time.Instant} {script : Script}
    (hcompile : document.compile = .ok g.catalog) (hreached : store.Reached)
    (hunused : store.Unused id) (hnow : now.IsRepresentable) (hscript : script.Distinct)
    (checked : Catalog) (earlier : RecordId) (cancel : Option Nat) :
    let effect := replay checked g store earlier id now script cancel
    (∀ error, effect.result = .error error → error.IsRefusal →
      effect.store = store ∧ effect.requests = []) ∧
    ∀ report, effect.result = .ok report →
      report.recordId = id ∧ ∃ original basis p e, store.find earlier = .ok original ∧
        basis? original.inputs = some basis ∧
        g.catalog.Usable original.provider original.endpoint p e ∧
        let run := runOn g p e id now script cancel (callAgain earlier original basis)
        Repeats earlier id original run.record ∧ effect.requests = run.requests ∧
          effect.store = ((store.append run.record).1.attach earlier id).1 ∧
          (store.Legible run.record →
            ((∃ replay, Repeats earlier id original replay ∧
                store.Replays effect.store earlier original replay) ↔
              store.Retains run.record)) := by
  intro effect
  rcases replay_cases checked g store earlier id now script cancel with
    ⟨failure, heffect⟩ | ⟨original, basis, p, e, hfound, hbasis, huse, heffect⟩
  · have heffect' : effect = ⟨store, [], 0, .error failure⟩ := heffect
    rw [heffect']
    exact ⟨fun _ _ _ => ⟨rfl, rfl⟩, fun report hreport => nomatch hreport⟩
  · let run := runOn g p e id now script cancel (callAgain earlier original basis)
    have heffect' : effect = replayEffect store earlier run := heffect
    have hrepeats : Repeats earlier id original run.record := repeats_runOn hcompile basis huse
    rw [heffect']
    refine ⟨fun error herror hrefusal =>
      absurd hrefusal (not_isRefusal_of_replayEffect herror), fun report hreport => ?_⟩
    obtain ⟨rfl, happend, hattach, hstore, hrequests⟩ := replayEffect_eq_ok hreport
    have hslug : Catalog.isSlug run.record.provider = true := by
      rw [hrepeats.provider]
      exact Catalog.isSlug_of_provider hcompile huse.provider
    have hregular (hdistinct : ∀ hs, original.inputs.headers = some hs → hs.Distinct) :
        run.record.Regular :=
      regular_record hnow hscript (distinct_of_basis? hbasis hdistinct)
    refine ⟨hrepeats.id, original, basis, p, e, hfound, hbasis, huse, hrepeats, hrequests, ?_,
      fun hlegible => ?_⟩
    · rw [hstore, hrepeats.id]
    · exact replays_iff_retains hreached.proper hunused hslug hregular hrepeats hfound happend
        hattach hstore hlegible

/-! ## An order and its replay -/

open Audit.Journal (record? lineOf fileName partitionName appended IsReadable)

/-- A journal in an empty folder, behind the append of a record. -/
def single (r : Record) : Audit.Store := ((Audit.Store.journal ⟨[], [], []⟩).append r).1

/-- A record that comes back from its line and that a gateway can replay. -/
structure Replayable (g : Gateway) (p : Provider) (e : Endpoint) (basis : Basis)
    (earlier : RecordId) (r : Record) : Prop where
  id : r.id = earlier
  untold : r.replays = []
  slug : Catalog.isSlug r.provider = true
  reads : record? (lineOf r) = some r
  usable : g.catalog.dispatchable r.provider r.endpoint = .ok (p, e)
  inputs : basis? r.inputs = some basis

section

variable {g : Gateway} {p : Provider} {e : Endpoint} {basis : Basis} {earlier id : RecordId}
  {now : Time.Instant} {script : Script} {cancel : Option Nat} {r : Record}

theorem opened_nil : (Audit.Store.journal ⟨[], [], []⟩).Opened :=
  .journal (show Folder.Ascending [] from List.Pairwise.nil) Audit.Journal.ofFolder_nil

theorem reached_single (r : Record) : (single r).Reached := ⟨_, [.append r], opened_nil, rfl⟩

theorem list_single_of_lineage (h : r.provider = "lineage") : (single r).list {} = [] := by
  have hsame : (single r).list {} = Audit.Journal.list {} ⟨[], [], []⟩ :=
    Audit.Journal.Proper.list_append_lineage opened_nil.proper h
      (Audit.Journal.append_ok rfl ⟨[], rfl⟩)
  have hnil : Audit.Journal.partitions [] = [] := Audit.Journal.partitions_eq_nil nofun
  rw [hsame]
  unfold Audit.Journal.list
  rw [hnil]
  rfl

theorem single_eq (hslug : Catalog.isSlug r.provider = true) :
    single r = .journal ⟨appended r [], [(r.id, r.provider)], []⟩ := by
  have happend : (Audit.Journal.append r ⟨[], [], []⟩).2 = .ok r.id :=
    Audit.Journal.append_ok rfl ⟨[], rfl⟩
  obtain ⟨_, _, hstate⟩ := Audit.Journal.append_eq_of_isSlug hslug happend
  exact congrArg Audit.Store.journal hstate

/-- Another record of the provider is retained if none of its values is too deep, for the file ends
with a whole line. -/
theorem retains_single (hslug : Catalog.isSlug r.provider = true) (hne : r.provider ≠ "lineage")
    {record : Record} (hprovider : record.provider = r.provider)
    (hdepth : ∀ v ∈ record.values, v.depth ≤ 125) : (single r).Retains record := by
  rw [single_eq hslug]
  refine ⟨hprovider ▸ hne, ?_, hdepth⟩
  dsimp only
  unfold appended
  rw [hprovider, Audit.Journal.textOf_put_self,
    Audit.Journal.tail_append_line (Audit.Journal.isLine_lineOf r)]
  rfl

theorem Replayable.find (h : Replayable g p e basis earlier r) :
    (single r).find earlier = .ok r := by
  have hfound := Audit.Journal.find_of_spaces (j := ⟨[], [], []⟩)
    (Audit.Journal.id?_of_record?_lineOf h.reads) ⟨[], rfl⟩ rfl List.not_mem_nil
    (Audit.Journal.finds_append _ r).folder (Audit.Journal.finds_append _ r).lineage
    List.lookup_cons_self
  rw [h.reads] at hfound
  rw [single_eq h.slug, ← h.id]
  exact hfound

theorem Replayable.unused (h : Replayable g p e basis earlier r) (hne : id ≠ earlier) :
    (single r).Unused id where
  untold := by
    intro other x hx
    by_cases hother : other = earlier
    · subst hother
      cases hx.symm.trans h.find
      rw [h.untold]
      exact List.not_mem_nil
    · have hnone : (single r).find other = .error (.notFound other) := by
        have hindex : [(r.id, r.provider)].lookup other = none := by
          rw [h.id, List.lookup_cons, beq_eq_false_iff_ne.2 hother]
          rfl
        rw [single_eq h.slug]
        show Audit.Journal.find other _ = _
        unfold Audit.Journal.find
        rw [hindex]
      cases hx.symm.trans hnone
  unwritten := by
    intro j hj p hmem
    rw [single_eq h.slug] at hj
    cases hj
    by_cases hp : p = r.provider
    · rw [hp, Audit.Journal.idsIn_appended_self (Audit.Journal.id?_of_record?_lineOf h.reads)
        ⟨[], rfl⟩ rfl, h.id] at hmem
      exact hne (List.mem_singleton.1 hmem)
    · rw [Audit.Journal.idsIn_appended_of_ne hp] at hmem
      cases hmem

/-- The replay of the one record in a journal has a report. -/
theorem Replayable.replay (h : Replayable g p e basis earlier r) (hne : id ≠ earlier) :
    ∃ report, (Dispatch.replay g.catalog g (single r) earlier id now script cancel).result =
      .ok report := by
  let again := runOn g p e id now script cancel (callAgain earlier r basis)
  have hcall : replayCall g.catalog (single r) earlier = .ok (callAgain earlier r basis) :=
    replayCall_eq_ok h.find h.usable h.inputs
  have heffect : Dispatch.replay g.catalog g (single r) earlier id now script cancel =
      replayEffect (single r) earlier again := by
    unfold Dispatch.replay
    rw [hcall]
    exact replayWith_of_usable h.usable
  have hid : again.record.id = id := (identified_runOn (g := g)).id
  have hreadable (name : String) : IsReadable (appended r []) name :=
    IsReadable.put ⟨[], rfl⟩ _ _
  have happend : ((single r).append again.record).2 = .ok again.record.id := by
    rw [single_eq h.slug]
    refine Audit.Journal.append_ok ?_ (hreadable _)
    rw [hid, h.id, List.lookup_cons, beq_eq_false_iff_ne.2 hne]
    rfl
  have hattach :
      (((single r).append again.record).1.attach earlier again.record.id).2 = .ok () := by
    rw [single_eq h.slug] at happend ⊢
    obtain ⟨_, _, hstate⟩ := Audit.Journal.append_eq_ok happend
    show (((Audit.Journal.append again.record _).1).attach earlier again.record.id).2 = .ok ()
    rw [hstate]
    refine Audit.Journal.attach_ok ?known ?readable
    case known =>
      rw [hid, h.id, List.lookup_cons, beq_eq_false_iff_ne.2 (Ne.symm hne), List.lookup_cons_self]
      exact Option.some_ne_none _
    case readable =>
      dsimp only
      exact (hreadable Audit.Journal.lineageName).put _ _
  refine ⟨again.report, ?_⟩
  rw [heffect]
  unfold replayEffect
  rw [happend]
  dsimp only
  rw [hattach]
  rfl

theorem replays_runOn {call : Call} : (runOn g p e id now script cancel call).record.replays = [] :=
  rfl

end

/-- What is written for an order that is answered with an empty list. -/
theorem readable_of_answered {r : Record} (h : r.values = [orderAmount, .arr [], orderAmount]) :
    ∀ v ∈ r.values, v.Readable := by
  simp [h, readable_orderAmount, Json.Readable, Json.ReadableItems]

theorem reads_of_answered {r : Record} (hregular : r.Regular)
    (h : r.values = [orderAmount, .arr [], orderAmount]) : record? (lineOf r) = some r := by
  refine (Audit.Journal.record?_lineOf_iff hregular (readable_of_answered h)).2 ?_
  unfold Record.Lossless
  rw [h]
  decide

/-- The record of an order that is answered with an empty list can be replayed. -/
theorem replayable_of_answered {catalog : Catalog} {p : Provider} {e : Endpoint} {call : Call}
    {basis : Basis} {r : Record}
    (hr : r = (runOn (shopGateway catalog) p e firstId ⟨0, 0⟩ (answering "[]") none call).record)
    (hcall : call.basis.Distinct) (hvalues : r.values = [orderAmount, .arr [], orderAmount])
    (hslug : Catalog.isSlug r.provider = true)
    (huse : (shopGateway catalog).catalog.dispatchable r.provider r.endpoint = .ok (p, e))
    (hbasis : basis? r.inputs = some basis) :
    Replayable (shopGateway catalog) p e basis firstId r where
  id := by
    rw [hr]
    exact (identified_runOn (g := shopGateway catalog)).id
  untold := by
    rw [hr]
    exact replays_runOn
  slug := hslug
  reads := reads_of_answered
    (hr ▸ regular_record isRepresentable_epoch (distinct_answering _) hcall) hvalues
  usable := huse
  inputs := hbasis

/-- What a replay of the answered order starts from. -/
def answeredBasis : Basis := (basis? (answeredRun "[]").record.inputs).get (by decide +kernel)

/-- The run of the replay of the answered order. -/
def againRun : Run :=
  runOn (shopGateway clientCatalog) orderEndpoint.1 orderEndpoint.2 secondId ⟨0, 0⟩
    (answering "[]") none (callAgain firstId (answeredRun "[]").record answeredBasis)

/-- The replay of the one order in a journal. -/
def replayedOrder (catalog : Catalog) (order : Record) : Effect ReplayError :=
  replay (shopGateway catalog).catalog (shopGateway catalog) (single order) firstId secondId ⟨0, 0⟩
    (answering "[]") none

theorem replay_accounted_order :
    clientShop.compile = .ok (shopGateway clientCatalog).catalog ∧
      (single (answeredRun "[]").record).Reached ∧
      (single (answeredRun "[]").record).Unused secondId ∧
      (∃ report, (replayedOrder clientCatalog (answeredRun "[]").record).result = .ok report) ∧
      (single (answeredRun "[]").record).Legible againRun.record ∧
      (single (answeredRun "[]").record).Retains againRun.record ∧
      ∃ replay, Repeats firstId secondId (answeredRun "[]").record replay ∧
        (single (answeredRun "[]").record).Replays
          (replayedOrder clientCatalog (answeredRun "[]").record).store firstId
          (answeredRun "[]").record replay := by
  have hvalues : (answeredRun "[]").record.values = [orderAmount, .arr [], orderAmount] := by
    decide +kernel
  have hagain : againRun.record.values = [orderAmount, .arr [], orderAmount] := by
    decide +kernel
  have hnames : (answeredRun "[]").record.provider = "shop" ∧
      (answeredRun "[]").record.endpoint = "order" ∧ againRun.record.provider = "shop" := by
    decide +kernel
  have hslug : Catalog.isSlug (answeredRun "[]").record.provider = true := by
    rw [hnames.1]
    decide
  have hfind : (shopGateway clientCatalog).catalog.dispatchable (answeredRun "[]").record.provider
      (answeredRun "[]").record.endpoint = .ok orderEndpoint := by
    rw [hnames.1, hnames.2.1]
    exact eq_ok_get _
  have horder : Replayable (shopGateway clientCatalog) orderEndpoint.1 orderEndpoint.2
      answeredBasis firstId (answeredRun "[]").record :=
    replayable_of_answered rfl trivial hvalues hslug hfind (Option.some_get _).symm
  have hunused : (single (answeredRun "[]").record).Unused secondId := horder.unused (by decide)
  have hlegible : (single (answeredRun "[]").record).Legible againRun.record :=
    readable_of_answered hagain
  have hretains : (single (answeredRun "[]").record).Retains againRun.record := by
    refine retains_single hslug ?_ (hnames.2.2.trans hnames.1.symm) ?_
    · rw [hnames.1]
      decide
    · rw [hagain]
      decide
  unfold replayedOrder
  obtain ⟨report, hreport⟩ := horder.replay (by decide : secondId ≠ firstId)
  obtain ⟨_, original, basis, p, e, hfound, hbasis, huse, _, _, _, hkeeps⟩ :=
    (replay_accounted (eq_ok_get _ : clientShop.compile = _) (reached_single _) hunused
      isRepresentable_epoch (distinct_answering "[]") (shopGateway clientCatalog).catalog firstId
      none).2 report hreport
  -- the record, the endpoint and the inputs are those of the order
  cases hfound.symm.trans horder.find
  cases hbasis.symm.trans horder.inputs
  have hendpoint : orderEndpoint = (p, e) :=
    Except.ok.inj (hfind.symm.trans (Catalog.dispatchable_eq_ok_iff.2 huse))
  have hrun : againRun = runOn (shopGateway clientCatalog) p e secondId ⟨0, 0⟩ (answering "[]") none
      (callAgain firstId (answeredRun "[]").record answeredBasis) := by
    rw [againRun, hendpoint]
  rw [← hrun] at hkeeps
  exact ⟨eq_ok_get _, reached_single _, hunused, ⟨report, hreport⟩, hlegible, hretains,
    (hkeeps hlegible).2 hretains⟩

/-- The shop under the name of the lineage. -/
def lineageShop : CatalogDocument := ⟨clientShop.providers.map ({ · with slug := "lineage" })⟩

/-- The catalog of the shop under the name of the lineage. -/
def lineageCatalog : Catalog := lineageShop.compile.toOption.get (by decide +kernel)

/-- The endpoint for orders at the shop under the name of the lineage. -/
def lineageEndpoint : Provider × Endpoint :=
  (lineageCatalog.dispatchable "lineage" "order").toOption.get (by decide +kernel)

/-- The dispatch of an order at the shop under the name of the lineage. -/
def lineageRun : Run :=
  runOn (shopGateway lineageCatalog) lineageEndpoint.1 lineageEndpoint.2 firstId ⟨0, 0⟩
    (answering "[]") none { orderCall with provider := "lineage" }

/-- The replay of an order at the provider with the name of the lineage has a report, and the store
lists neither the order nor its replay. -/
theorem replay_lost_lineage :
    lineageShop.compile = .ok (shopGateway lineageCatalog).catalog ∧
      (single lineageRun.record).Reached ∧ (single lineageRun.record).Unused secondId ∧
      (single lineageRun.record).find firstId = .ok lineageRun.record ∧
      (∃ report, (replayedOrder lineageCatalog lineageRun.record).result = .ok report ∧
        report.recordId = secondId) ∧
      (replayedOrder lineageCatalog lineageRun.record).store.list {} = [] ∧
      ¬∃ replay, Repeats firstId secondId lineageRun.record replay ∧
        (single lineageRun.record).Replays (replayedOrder lineageCatalog lineageRun.record).store
          firstId lineageRun.record replay := by
  have hcompile : lineageShop.compile = .ok (shopGateway lineageCatalog).catalog := eq_ok_get _
  have hvalues : lineageRun.record.values = [orderAmount, .arr [], orderAmount] := by
    decide +kernel
  have hnames : lineageRun.record.provider = "lineage" ∧
      lineageRun.record.endpoint = "order" := by
    decide +kernel
  have hslug : Catalog.isSlug lineageRun.record.provider = true := by
    rw [hnames.1]
    decide
  have hfind : (shopGateway lineageCatalog).catalog.dispatchable lineageRun.record.provider
      lineageRun.record.endpoint = .ok lineageEndpoint := by
    rw [hnames.1, hnames.2]
    exact eq_ok_get _
  obtain ⟨basis, hbasis⟩ : ∃ basis, basis? lineageRun.record.inputs = some basis :=
    Option.isSome_iff_exists.1 (by decide +kernel)
  have horder : Replayable (shopGateway lineageCatalog) lineageEndpoint.1 lineageEndpoint.2 basis
      firstId lineageRun.record :=
    replayable_of_answered rfl trivial hvalues hslug hfind hbasis
  unfold replayedOrder
  obtain ⟨report, hreport⟩ := horder.replay (by decide : secondId ≠ firstId)
  rcases replay_cases (shopGateway lineageCatalog).catalog (shopGateway lineageCatalog)
      (single lineageRun.record) firstId secondId ⟨0, 0⟩ (answering "[]") none with
    ⟨failure, heffect⟩ | ⟨original, basis, p, e, hfound, _, huse, heffect⟩
  · rw [heffect] at hreport
    cases hreport
  · cases hfound.symm.trans horder.find
    have hrepeats : Repeats firstId secondId lineageRun.record
        (runOn (shopGateway lineageCatalog) p e secondId ⟨0, 0⟩ (answering "[]") none
          (callAgain firstId lineageRun.record basis)).record :=
      repeats_runOn hcompile basis huse
    rw [heffect] at hreport ⊢
    obtain ⟨rfl, happend, hattach, hstore, _⟩ := replayEffect_eq_ok hreport
    have hlist : (replayEffect (single lineageRun.record) firstId
        (runOn (shopGateway lineageCatalog) p e secondId ⟨0, 0⟩ (answering "[]") none
          (callAgain firstId lineageRun.record basis))).store.list {} = [] := by
      rw [hstore, list_of_lineage (single_eq hslug) (reached_single _).proper
        (hrepeats.provider.trans hnames.1) happend hattach, list_single_of_lineage hnames.1]
      rfl
    refine ⟨hcompile, reached_single _, horder.unused (by decide), horder.find,
      ⟨_, hreport, hrepeats.id⟩, hlist, ?_⟩
    rintro ⟨replay, _, hreplays⟩
    have hlisted := hreplays.listed
    rw [hlist] at hlisted
    exact List.not_perm_nil_cons _ _ hlisted

end ApiGateway.Dispatch
