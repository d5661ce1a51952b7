import ApiGateway.Proofs.Catalog.Acceptance
import ApiGateway.Proofs.Dispatch.Replaying
import ApiGateway.Proofs.Secrets

/-! # Environments that are not active

A provider may have many environments, and one of them is active. Validation looks at all of them,
but a compiled provider keeps the active one alone, so two documents that differ in the others have
the same catalog, if both have one (`compile_eq`).

A dispatch asks the store of secrets on its way. `Inquiry` writes such a computation down as a tree
of questions: with the answers of a store it is the dispatch, and the names that it asks for can be
read off it, whatever the answers are. They are names in references of the active environment of the
provider that is called (`isolated_environments`).
-/

set_option autoImplicit false

namespace ApiGateway

/-! ## Questions -/

namespace Secrets

/-- A computation that asks for secrets: its result, or the name of a secret and how it goes on with
the answer. -/
inductive Inquiry (α : Type) where
  | done (result : α)
  | ask (name : String) (next : Except SecretError String → Inquiry α)

namespace Inquiry

variable {α β : Type}

/-- An inquiry that goes on with the result of another one. -/
def bind : Inquiry α → (α → Inquiry β) → Inquiry β
  | .done result, f => f result
  | .ask name next, f => .ask name fun answer => (next answer).bind f

instance : Monad Inquiry where
  pure := .done
  bind := .bind

/-- The result with the answers of a store. -/
def answer (store : Store) : Inquiry α → α
  | .done result => result
  | .ask name next => (next (store.get name)).answer store

/-- The names that a store is asked for, one after another. -/
def asked (store : Store) : Inquiry α → List String
  | .done _ => []
  | .ask name next => name :: (next (store.get name)).asked store

/-- Whatever the answers are, only such names are asked for. -/
inductive AsksOnly (P : String → Prop) : Inquiry α → Prop
  | done (result : α) : AsksOnly P (.done result)
  | ask {name : String} {next : Except SecretError String → Inquiry α} (named : P name)
      (behind : ∀ answer, AsksOnly P (next answer)) : AsksOnly P (.ask name next)

variable {P Q : String → Prop} {q : Inquiry α} {f : α → Inquiry β} {store : Store}

theorem answer_bind (q : Inquiry α) (f : α → Inquiry β) (store : Store) :
    (q >>= f).answer store = (f (q.answer store)).answer store := by
  induction q with
  | done result => rfl
  | ask name next ih => exact ih (store.get name)

theorem AsksOnly.bind (hq : q.AsksOnly P) (hf : ∀ a, (f a).AsksOnly P) :
    (q >>= f).AsksOnly P := by
  induction hq with
  | done result => exact hf result
  | ask named _ ih => exact .ask named ih

theorem AsksOnly.mono (hq : q.AsksOnly P) (h : ∀ name, P name → Q name) : q.AsksOnly Q := by
  induction hq with
  | done result => exact .done result
  | ask named _ ih => exact .ask (h _ named) ih

/-- The names that a store is asked for are among those that may be asked for. -/
theorem AsksOnly.of_mem_asked (hq : q.AsksOnly P) : ∀ name ∈ q.asked store, P name := by
  induction hq with
  | done result => exact nofun
  | ask named _ ih => exact List.forall_mem_cons.2 ⟨named, ih _⟩

end Inquiry

/-! ## References -/

/-- A reference names a secret: by its text, if no placeholder stands in it, or in one of its
placeholders. -/
inductive Names (reference : String) : String → Prop
  | bare (bare : Bare (Text.trim reference).toList) (nonempty : Text.trim reference ≠ "") :
      Names reference (Text.trim reference)
  | placeholder (p : Placeholder) (source : p.source = .secrets)
      (inside : p.text <:+: (Text.trim reference).toList) : Names reference p.name

/-- The text of a piece; only for a secret a store is asked. -/
def Piece.inquire (vars : Keyed String) : Piece → Inquiry (Except SecretError (List Char))
  | .char c => pure (.ok [c])
  | .secret name => .ask name fun answer => pure (answer.map String.toList)
  | .variable name =>
    match vars.lookup name with
    | some value => pure (.ok value.toList)
    | none => pure (.error (.missingVariable name))

/-- The text of pieces. All secrets are asked for, even behind a piece that has no text. -/
def inquireValues (vars : Keyed String) : List Piece → Inquiry (Except SecretError (List Char))
  | [] => pure (.ok [])
  | piece :: rest => do
    let value ← piece.inquire vars
    let others ← inquireValues vars rest
    return value.bind fun value => others.map (value ++ ·)

/-- The value of a reference. -/
def inquire (vars : Keyed String) (reference : String) : Inquiry (Except SecretError String) :=
  let reference := Text.trim reference
  if (pieces reference).any Piece.isPlaceholder then do
    let value ← inquireValues vars (pieces reference)
    return value.map String.ofList
  else if reference.isEmpty then pure (.error (.missing "" "empty credential reference" .absent))
  else .ask reference .done

variable {P : String → Prop} {store : Store} {vars : Keyed String} {reference name : String}

theorem Piece.answer_inquire (piece : Piece) :
    (piece.inquire vars).answer store = piece.value store vars := by
  rcases piece with c | name | name
  · rfl
  · rfl
  · unfold Piece.inquire Piece.value
    dsimp only
    cases vars.lookup name <;> rfl

theorem answer_inquireValues (ps : List Piece) :
    (inquireValues vars ps).answer store = values store vars ps := by
  induction ps with
  | nil => rfl
  | cons piece ps ih =>
      rw [inquireValues, Inquiry.answer_bind, Inquiry.answer_bind, ih, piece.answer_inquire, values]
      cases piece.value store vars with
      | error e => rfl
      | ok value => cases values store vars ps <;> rfl

/-- With the answers of a store the value is the one that the store gives. -/
theorem answer_inquire (reference : String) :
    (inquire vars reference).answer store = resolve store vars reference := by
  unfold inquire resolve
  dsimp only
  split
  · rw [Inquiry.answer_bind, answer_inquireValues]
    rfl
  · split <;> rfl

theorem asksOnly_inquireValues {ps : List Piece} (h : ∀ name, .secret name ∈ ps → P name) :
    (inquireValues vars ps).AsksOnly P := by
  induction ps with
  | nil => exact .done _
  | cons piece ps ih =>
      have hpiece : (piece.inquire vars).AsksOnly P := by
        rcases piece with c | name | name
        · exact .done _
        · exact .ask (h name List.mem_cons_self) fun _ => .done _
        · unfold Piece.inquire
          dsimp only
          split <;> exact .done _
      have hrest := ih fun name hname => h name (List.mem_cons_of_mem piece hname)
      exact hpiece.bind fun _ => hrest.bind fun _ => .done _

/-- A piece that is a secret is a placeholder in the text. -/
theorem exists_placeholder_of_mem_pieces {cs : List Char} (h : .secret name ∈ piecesFrom 0 cs) :
    ∃ p : Placeholder, p.source = .secrets ∧ p.name = name ∧ p.text <:+: cs := by
  obtain ⟨d, hd⟩ := Division.exists_divides cs
  rw [Division.piecesFrom_of_divides hd, Division.pieces, List.mem_append] at h
  rcases h with hpart | hrest
  · obtain ⟨⟨front, p⟩, hmem, hpiece⟩ := List.mem_flatMap.1 hpart
    have hsecret : p.piece = .secret name := by
      rcases List.mem_append.1 hpiece with hchar | hlast
      · obtain ⟨c, -, hc⟩ := List.mem_map.1 hchar
        cases hc
      · exact (List.mem_singleton.1 hlast).symm
    have hinside : p.text <:+: cs := by
      obtain ⟨before, behind, hsplit⟩ := List.append_of_mem hmem
      rw [← hd.text, Division.fill, hsplit, List.flatMap_append, List.flatMap_cons]
      exact ⟨before.flatMap (fun part => part.1 ++ part.2.text) ++ front,
        behind.flatMap (fun part => part.1 ++ part.2.text) ++ d.rest, by simp⟩
    obtain ⟨source, other, _⟩ := p
    cases source with
    | environment => cases hsecret
    | secrets =>
        cases hsecret
        exact ⟨_, rfl, rfl, hinside⟩
  · obtain ⟨c, -, hc⟩ := List.mem_map.1 hrest
    cases hc

/-- For the value of a reference only secrets are asked for that the reference names. -/
theorem asksOnly_inquire (reference : String) :
    (inquire vars reference).AsksOnly (Names reference) := by
  unfold inquire
  dsimp only
  split
  · refine (asksOnly_inquireValues fun name hname => ?_).bind fun _ => .done _
    obtain ⟨p, hsource, rfl, hinside⟩ := exists_placeholder_of_mem_pieces hname
    exact .placeholder p hsource hinside
  · rename_i hnone
    split
    · exact .done _
    · rename_i hne
      obtain ⟨d, hd⟩ := Division.exists_divides (Text.trim reference).toList
      have hpieces : pieces (Text.trim reference) = d.pieces := Division.piecesFrom_of_divides hd
      rw [hpieces, Division.any_isPlaceholder_pieces, not_not] at hnone
      have hrest : d.rest = (Text.trim reference).toList := by
        have hparts : d.parts = [] := List.map_eq_nil_iff.1 hnone
        rw [← hd.text, Division.fill, hparts]
        rfl
      exact .ask (.bare (hrest ▸ hd.rest) fun hempty => hne (String.isEmpty_iff.2 hempty))
        fun answer => .done answer

end Secrets

/-! ## Credentials -/

namespace Credentials

open Secrets (Inquiry Names)

/-- Keeps what a reference gave. -/
def note (c : Credentials) (name : String) : Except Secrets.SecretError String → Credentials
  | .ok value => { c with values := Keyed.put name value c.values }
  | .error e => { c with missing := Keyed.put name e c.missing }

/-- Looks up references. -/
def inquire (vars : Keyed String) (c : Credentials) : Keyed String → Inquiry Credentials
  | [] => pure c
  | (name, reference) :: rest => do
    let value ← Secrets.inquire vars reference
    inquire vars (c.note name value) rest

variable {store : Secrets.Store} {vars : Keyed String}

theorem answer_inquire (c : Credentials) (references : Keyed String) :
    (inquire vars c references).answer store = references.foldl (add store vars) c := by
  induction references generalizing c with
  | nil => rfl
  | cons entry rest ih =>
      obtain ⟨name, reference⟩ := entry
      rw [inquire, Inquiry.answer_bind, Secrets.answer_inquire, ih, List.foldl_cons]
      unfold add note
      cases Secrets.resolve store vars reference <;> rfl

theorem asksOnly_inquire (c : Credentials) (references : Keyed String) :
    (inquire vars c references).AsksOnly fun name =>
      ∃ entry ∈ references, Names entry.2 name := by
  induction references generalizing c with
  | nil => exact .done c
  | cons entry rest ih =>
      obtain ⟨name, reference⟩ := entry
      refine Inquiry.AsksOnly.bind ?_ fun value => ?_
      · exact (Secrets.asksOnly_inquire reference).mono fun _ hnames =>
          ⟨_, List.mem_cons_self, hnames⟩
      · exact (ih _).mono fun _ ⟨entry, hentry, hnames⟩ =>
          ⟨entry, List.mem_cons_of_mem _ hentry, hnames⟩

end Credentials

/-! ## Documents -/

namespace Catalog

/-- The two providers are the same but for environments that are not active. -/
structure ProviderDocument.SameActive (p p' : ProviderDocument) : Prop where
  others : { p' with environments := p.environments } = p
  active : p.environments.lookup p.activeEnvironment = p'.environments.lookup p'.activeEnvironment

end Catalog

namespace CatalogDocument

open Catalog

/-- The two documents have the same providers but for environments that are not active. -/
def SameActive (d d' : CatalogDocument) : Prop :=
  List.Forall₂ ProviderDocument.SameActive d.providers d'.providers

/-- A reference of the active environment of a provider names this secret. -/
def NamesActive (d : CatalogDocument) (provider name : String) : Prop :=
  ∃ p ∈ d.providers, p.slug = provider ∧
    ∃ environment, p.environments.lookup p.activeEnvironment = some environment ∧
      ∃ entry ∈ environment.credentials, Secrets.Names entry.2 name

end CatalogDocument

namespace Catalog

variable {d d' : CatalogDocument} {c c' : Catalog}

theorem ProviderDocument.SameActive.compile_eq {p p' : ProviderDocument} (h : p.SameActive p') :
    p.compile = p'.compile := by
  obtain ⟨hothers, hactive⟩ := h
  obtain ⟨slug, name, active, auth, environments, activeEnvironment, sensitiveFields, endpoints⟩ :=
    p
  cases hothers
  unfold compile
  dsimp only at hactive ⊢
  rw [hactive]

/-- Two documents that differ in environments that are not active have the same catalog. -/
theorem compile_eq (h : d.compile = .ok c) (h' : d'.compile = .ok c') (hsame : d.SameActive d') :
    c = c' := by
  have hproviders : d.providers.mapM ProviderDocument.compile =
      d'.providers.mapM ProviderDocument.compile := by
    unfold CatalogDocument.SameActive at hsame
    generalize d.providers = ps, d'.providers = ps' at hsame
    induction hsame with
    | nil => rfl
    | cons hfirst _ ih => rw [List.mapM_cons, List.mapM_cons, hfirst.compile_eq, ih]
  obtain ⟨-, ps, hps, rfl⟩ := exists_of_compile h
  obtain ⟨-, ps', hps', rfl⟩ := exists_of_compile h'
  rw [hproviders, hps'] at hps
  cases hps
  rfl

theorem environment_of_compile {pd : ProviderDocument} {p : Provider} (h : pd.compile = .ok p) :
    pd.environments.lookup pd.activeEnvironment = some p.environment := by
  unfold ProviderDocument.compile at h
  split at h
  · cases h
  · rename_i environment hactive
    obtain ⟨_, _, h⟩ := bind_eq_ok_iff.1 h
    cases h
    exact hactive

end Catalog

/-! ## Dispatches -/

namespace Dispatch

open Catalog (Provider Endpoint)
open Secrets (Inquiry)

/-- The rest of a run, once the credentials are looked up. -/
def runWith (o : Options) (p : Provider) (e : Endpoint) (id : RecordId) (now : Time.Instant)
    (script : Script) (cancel : Option Nat) (call : Call) (credentials : Credentials) : Run :=
  let m := maskerOf o p credentials
  let c := contextOf p e credentials call.basis
  let t := begin p e id now call
  match build e c call.basis with
  | .error error =>
    { trace := t.fail (buildErrorKind error) error.message (some error.field), masker := m }
  | .ok b =>
    let d := draftOf p e b
    let t := t.built e b d
    match sign p.auth d credentials e.mapping.signatureFormula c with
    | .error error => { trace := t.fail .auth error.message error.credential?, masker := m }
    | .ok signed =>
      let t := { t with stage := .sending, request := sentRequest e b signed }
      settle e c t m (outbound e signed) (send script e.retry e.timeout cancel)

/-- A run that asks for its credentials. -/
def inquireRun (vars : Keyed String) (o : Options) (p : Provider) (e : Endpoint) (id : RecordId)
    (now : Time.Instant) (script : Script) (cancel : Option Nat) (call : Call) : Inquiry Run := do
  let credentials ← Credentials.inquire vars {} p.environment.credentials
  return runWith o p e id now script cancel call credentials

/-- A dispatch that asks for its credentials. -/
def inquireDispatch (catalog : Catalog) (vars : Keyed String) (o : Options) (store : Audit.Store)
    (id : RecordId) (now : Time.Instant) (script : Script) (cancel : Option Nat) (call : Call) :
    Inquiry (Effect GatewayError) :=
  match catalog.dispatchable call.provider call.endpoint with
  | .error reason =>
    pure ⟨store, [], 0, .error (.configNotFound call.provider call.endpoint reason)⟩
  | .ok (p, e) => do
    let r ← inquireRun vars o p e id now script cancel call
    return ⟨(store.append r.record).1, r.requests, r.finish,
      ((store.append r.record).2.map fun _ => r.report).mapError .audit⟩

/-- A replay that asks for its credentials. -/
def inquireReplay (checked catalog : Catalog) (vars : Keyed String) (o : Options)
    (store : Audit.Store) (earlier id : RecordId) (now : Time.Instant) (script : Script)
    (cancel : Option Nat) : Inquiry (Effect ReplayError) :=
  match replayCall checked store earlier with
  | .error error => pure ⟨store, [], 0, .error error⟩
  | .ok call =>
    match catalog.dispatchable call.provider call.endpoint with
    | .error reason =>
      pure ⟨store, [], 0, .error (.providerDeactivated call.provider call.endpoint reason)⟩
    | .ok (p, e) => do
      let r ← inquireRun vars o p e id now script cancel call
      return replayEffect store earlier r

section

variable {d : CatalogDocument} {c : Catalog} {g : Gateway} {vars : Keyed String} {o : Options}
  {p : Provider} {e : Endpoint} {store : Audit.Store} {earlier id : RecordId} {now : Time.Instant}
  {script : Script} {cancel : Option Nat} {call : Call}

theorem answer_inquireRun :
    (inquireRun g.vars g.options p e id now script cancel call).answer g.secrets =
      runOn g p e id now script cancel call := by
  rw [inquireRun, Inquiry.answer_bind, Credentials.answer_inquire]
  rfl

/-- With the answers of the store of secrets the inquiry is the dispatch. -/
theorem answer_inquireDispatch :
    (inquireDispatch g.catalog g.vars g.options store id now script cancel call).answer g.secrets =
      dispatch g store id now script cancel call := by
  unfold inquireDispatch
  cases hfind : g.catalog.dispatchable call.provider call.endpoint with
  | error reason => exact (dispatch_of_refused hfind).symm
  | ok found =>
      obtain ⟨p, e⟩ := found
      dsimp only
      rw [Inquiry.answer_bind, answer_inquireRun]
      exact (dispatch_of_usable hfind).symm

/-- With the answers of the store of secrets the inquiry is the replay. -/
theorem answer_inquireReplay (checked : Catalog) :
    (inquireReplay checked g.catalog g.vars g.options store earlier id now script cancel).answer
      g.secrets = replay checked g store earlier id now script cancel := by
  unfold inquireReplay replay
  cases replayCall checked store earlier with
  | error error => rfl
  | ok call =>
      dsimp only
      cases hfind : g.catalog.dispatchable call.provider call.endpoint with
      | error reason =>
          unfold replayWith
          rw [dispatch_of_refused hfind]
          rfl
      | ok found =>
          obtain ⟨p, e⟩ := found
          dsimp only
          rw [Inquiry.answer_bind, answer_inquireRun]
          exact (replayWith_of_usable hfind).symm

/-- A run of a compiled provider asks only for what its active environment names. -/
theorem asksOnly_inquireRun (h : d.compile = .ok c)
    (hfind : c.dispatchable call.provider call.endpoint = .ok (p, e)) :
    (inquireRun vars o p e id now script cancel call).AsksOnly (d.NamesActive call.provider) := by
  have huse := Catalog.dispatchable_eq_ok_iff.1 hfind
  obtain ⟨hslug, pd, hpd, hcompile⟩ :=
    Catalog.providers_of_compile h _ (mem_of_lookup_eq_some huse.provider)
  obtain ⟨_, _, _, hp⟩ := Catalog.exists_of_compile_provider hcompile
  refine ((Credentials.asksOnly_inquire _ _).mono fun name hnames => ?_).bind fun _ => .done _
  have hcalled : call.provider = p.slug := hslug
  have hcompiled : p.slug = pd.slug := congrArg Provider.slug hp
  exact ⟨pd, hpd, (hcalled.trans hcompiled).symm, p.environment,
    Catalog.environment_of_compile hcompile, hnames⟩

theorem asksOnly_inquireDispatch (h : d.compile = .ok c) :
    (inquireDispatch c vars o store id now script cancel call).AsksOnly
      (d.NamesActive call.provider) := by
  unfold inquireDispatch
  split
  · exact .done _
  · rename_i p e hfind
    exact (asksOnly_inquireRun h hfind).bind fun _ => .done _

theorem asksOnly_inquireReplay (h : d.compile = .ok c) (checked : Catalog) :
    (inquireReplay checked c vars o store earlier id now script cancel).AsksOnly fun name =>
      ∃ original, store.find earlier = .ok original ∧ d.NamesActive original.provider name := by
  unfold inquireReplay
  split
  · exact .done _
  · rename_i call hcall
    split
    · exact .done _
    · rename_i p e hfind
      obtain ⟨original, basis, hfound, -, rfl⟩ := exists_of_replayCall hcall
      refine ((asksOnly_inquireRun h hfind).mono fun name hnames => ?_).bind fun _ => .done _
      exact ⟨original, hfound, hnames⟩

end

/-- Two documents that have a catalog and differ only in environments that are not active cannot be
told apart. Every dispatch and every replay is the same on both: what is left in the store, what is
sent, the time it takes and the result. On the way both ask the store of secrets the same questions,
and only for names in references of the active environment of the provider that is called, whatever
the answers are. -/
theorem isolated_environments {d d' : CatalogDocument} {c c' : Catalog} (h : d.compile = .ok c)
    (h' : d'.compile = .ok c') (hsame : d.SameActive d') (vars : Keyed String) (o : Options)
    (store : Audit.Store) (id : RecordId) (now : Time.Instant) (script : Script)
    (cancel : Option Nat) :
    (∀ secrets call,
      dispatch ⟨c, secrets, vars, o⟩ store id now script cancel call =
        dispatch ⟨c', secrets, vars, o⟩ store id now script cancel call) ∧
    (∀ secrets earlier,
      replay c ⟨c, secrets, vars, o⟩ store earlier id now script cancel =
        replay c' ⟨c', secrets, vars, o⟩ store earlier id now script cancel) ∧
    (∀ call,
      let q := inquireDispatch c vars o store id now script cancel call
      q = inquireDispatch c' vars o store id now script cancel call ∧ ∀ secrets,
        q.answer secrets = dispatch ⟨c, secrets, vars, o⟩ store id now script cancel call ∧
          ∀ name ∈ q.asked secrets, d.NamesActive call.provider name) ∧
    ∀ earlier,
      let q := inquireReplay c c vars o store earlier id now script cancel
      q = inquireReplay c' c' vars o store earlier id now script cancel ∧ ∀ secrets,
        q.answer secrets = replay c ⟨c, secrets, vars, o⟩ store earlier id now script cancel ∧
          ∀ name ∈ q.asked secrets, ∃ original,
            store.find earlier = .ok original ∧ d.NamesActive original.provider name := by
  obtain rfl : c = c' := Catalog.compile_eq h h' hsame
  refine ⟨fun _ _ => rfl, fun _ _ => rfl, fun call => ⟨rfl, fun secrets => ⟨?_, ?_⟩⟩,
    fun earlier => ⟨rfl, fun secrets => ⟨?_, ?_⟩⟩⟩
  · exact answer_inquireDispatch (g := ⟨c, secrets, vars, o⟩)
  · exact (asksOnly_inquireDispatch h).of_mem_asked
  · exact answer_inquireReplay (g := ⟨c, secrets, vars, o⟩) c
  · exact (asksOnly_inquireReplay h c).of_mem_asked

/-- The shop with a second environment, which is not active. -/
def stagedShop (stage : Catalog.EnvironmentDocument) : CatalogDocument where
  providers := clientShop.providers.map fun p =>
    { p with environments := p.environments ++ [("stage", stage)] }

/-- The shop and a stage of its own. -/
def ownStage : CatalogDocument :=
  stagedShop { baseUrl := "http://[::1]:8081", credentials := [("key", "stage_key")] }

/-- The shop and a stage without a key. -/
def openStage : CatalogDocument :=
  stagedShop { baseUrl := "http://[::1]:8080", settings := [("debug", .bool true)] }

/-- The catalog of the shop with a stage of its own. -/
def ownCatalog : Catalog := ownStage.compile.toOption.get (by decide +kernel)

/-- The catalog of the shop with a stage without a key. -/
def openCatalog : Catalog := openStage.compile.toOption.get (by decide +kernel)

/-- An order is the same with either stage, and the store is asked for the key of the active
environment alone. -/
theorem isolated_environments_order :
    let questions := inquireDispatch ownCatalog [] {} (.memory {}) firstId ⟨0, 0⟩ accepting none
      orderCall
    ownStage.compile = .ok ownCatalog ∧ openStage.compile = .ok openCatalog ∧
      ownStage.SameActive openStage ∧ ownStage ≠ openStage ∧
      dispatch (shopGateway ownCatalog) (.memory {}) firstId ⟨0, 0⟩ accepting none orderCall =
        dispatch (shopGateway openCatalog) (.memory {}) firstId ⟨0, 0⟩ accepting none orderCall ∧
      questions.asked (shopGateway ownCatalog).secrets = ["key"] ∧
      ownStage.NamesActive "shop" "key" := by
  intro questions
  have hown : ownStage.compile = .ok ownCatalog := eq_ok_get _
  have hopen : openStage.compile = .ok openCatalog := eq_ok_get _
  have hsame : ownStage.SameActive openStage := .cons ⟨rfl, by decide +kernel⟩ .nil
  have hasked : questions.asked (shopGateway ownCatalog).secrets = ["key"] := by decide +kernel
  obtain ⟨hdispatch, -, hquestions, -⟩ := isolated_environments hown hopen hsame [] {} (.memory {})
    firstId ⟨0, 0⟩ accepting none
  refine ⟨hown, hopen, hsame, by decide +kernel, hdispatch _ orderCall, hasked, ?_⟩
  exact ((hquestions orderCall).2 (shopGateway ownCatalog).secrets).2 "key"
    (hasked ▸ List.mem_cons_self)

end Dispatch

end ApiGateway
