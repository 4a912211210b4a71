import ValidatorSigner.Proofs.Protection.Effect

/-! # Runs of protection

A run starts over a freshly installed database. It consists of requests, of restarts of the service, and of
what others do: they take the write lock, occupy the pools and close them. Beside the engine it keeps a
journal of all answers and the history of all rows that the tables have ever gained.
-/
namespace ValidatorSigner.Protection
open Store Telemetry

inductive Operation where
  | resolveValidator (key : PublicKey)
  | registerValidators (keys : List PublicKey)
  | validatorId (key : PublicKey)
  | allIds
  | checkGenesis (root : Root)
  | genesisExists
  | maySignBlock (genesis : Option Root) (c : BlockProposal)
  | maySignAttestation (genesis : Option Root) (c : Attestation)
  | prune (id : ValidatorId) (window : Retention)
  | pruneAll (window : Retention)

inductive Answer where
  | number (id : ValidatorId)
  | numbers (ids : List ValidatorId)
  | found (id? : Option ValidatorId)
  | belongs (yes : Bool)
  | decided (decision : Decision)
  | pruned (report : PruneReport)
deriving DecidableEq

namespace Request
variable {α : Type}

def answered (form : α → Answer) (x : Request α) : Request Answer := do
  return form (← x)

theorem answered_apply (form : α → Answer) (x : Request α) (e : Engine) :
    answered form x e = ((x e).1.map form, (x e).2) := by
  unfold answered
  cases h : x e with
  | mk outcome e' =>
    cases outcome with
    | ok a => exact bind_of_ok h
    | error cause => exact bind_of_error h

end Request

namespace Operation

def perform : Operation → Request Answer
  | resolveValidator key => Request.answered .number (Request.resolveValidator key)
  | registerValidators keys => Request.answered .numbers (Request.registerValidators keys)
  | validatorId key => Request.answered .found (Request.validatorId key)
  | allIds => Request.answered .numbers Request.allIds
  | checkGenesis root => Request.answered .belongs (Request.checkGenesis root)
  | genesisExists => Request.answered .belongs Request.genesisExists
  | maySignBlock genesis c => Request.answered .decided (Request.maySignBlock genesis c)
  | maySignAttestation genesis c => Request.answered .decided (Request.maySignAttestation genesis c)
  | prune id window => Request.answered .pruned (Request.prune id window)
  | pruneAll window => Request.answered .pruned (Request.pruneAll window)

/-- Carries a request out, where every prune run of a validator stops after a limited number of batches. -/
def performWithin (rounds : ValidatorId → Rounds) : Operation → Request Answer
  | prune id window => Request.answered .pruned (Request.pruneWithin (rounds id) id window)
  | pruneAll window => Request.answered .pruned (Request.pruneAllWithin rounds window)
  | other => other.perform

theorem perform_eq (op : Operation) : op.perform = op.performWithin fun _ => .all := by
  cases op with
  | prune id window => rfl
  | pruneAll window => exact congrArg (Request.answered .pruned) (Request.pruneAll_eq window)
  | _ => rfl

def offer : Operation → Offer
  | maySignBlock _ c => .block c
  | maySignAttestation _ c => .attestation c
  | _ => .nothing

end Operation

/-- An engine whose tables guard a history, with numbers at hand that agree with them. -/
structure Engine.Sound (e : Engine) (h : History) : Prop where
  installed : e.database.missing = []
  guards : Guards e.tables h
  coherent : e.service.Coherent e.tables

section Steps
variable {e e' : Engine} {h : History}

theorem Engine.Sound.leads {o : Offer} (hs : e.Sound h) (hl : e.Leads (Change e.tables o) e') :
    e'.Sound (h.extend e.tables e'.tables) where
  installed := hl.installed hs.installed
  guards := hs.guards.change hl.change
  coherent := hl.coherent hs.coherent

theorem pruneAllWithin_trims (rounds : ValidatorId → Rounds) (window : Retention) (hm : e.database.missing = [])
    (g : Guards e.tables h) :
    ∃ t' metrics, Relation.ReflTransGen Trim e.tables t' ∧
      (Request.pruneAllWithin rounds window e).2 = { e.withTables t' with metrics } := by
  unfold Request.pruneAllWithin
  obtain ⟨metrics, hids⟩ := @allIds_effect e hm
  cases hr : Request.allIds e with
  | mk outcome e₁ =>
    rw [hr] at hids
    obtain rfl : e₁ = { e with metrics } := hids
    cases outcome with
    | error cause =>
      rw [Request.bind_of_error hr]
      exact ⟨e.tables, metrics, .refl, rfl⟩
    | ok ids =>
      rw [Request.bind_of_ok hr]
      exact @pruneEachWithin_trims rounds window {} ids { e with metrics } h hm g

/-- What one request does, whatever it is and whatever comes of it. -/
theorem performWithin_leads (rounds : ValidatorId → Rounds) (op : Operation) (hs : e.Sound h) :
    e.Leads (Change e.tables op.offer) (op.performWithin rounds e).2 := by
  obtain ⟨hm, g, hc⟩ := hs
  have quietly {t' : Tables} {metrics : Metrics} (hq : Quietly e.tables t') :
      e.Leads (Change e.tables op.offer) { e.withTables t' with metrics } :=
    leads_of_tables (.quiet hq) (idOf_of_quietly hq) rfl
  cases op with
  | resolveValidator key =>
    simp only [Operation.performWithin, Operation.perform, Request.answered_apply]
    exact (resolveValidator_leads hm key).1.mono .quiet
  | registerValidators keys =>
    simp only [Operation.performWithin, Operation.perform, Request.answered_apply]
    exact (registerValidators_leads hm keys).mono .quiet
  | validatorId key =>
    simp only [Operation.performWithin, Operation.perform, Request.answered_apply]
    exact (validatorId_leads hm key).mono .quiet
  | allIds =>
    simp only [Operation.performWithin, Operation.perform, Request.answered_apply]
    obtain ⟨metrics, he⟩ := allIds_effect hm
    rw [he]
    exact quietly .refl
  | checkGenesis root =>
    simp only [Operation.performWithin, Operation.perform, Request.answered_apply]
    obtain ⟨t', metrics, hq, he⟩ := checkGenesis_effect hm g root
    rw [he]
    exact quietly hq
  | genesisExists =>
    simp only [Operation.performWithin, Operation.perform, Request.answered_apply]
    obtain ⟨metrics, he⟩ := genesisExists_effect hm g.wellFormed
    rw [he]
    exact quietly .refl
  | maySignBlock genesis c =>
    simp only [Operation.performWithin, Operation.perform, Request.answered_apply]
    obtain ⟨t', metrics, hchange, he, -⟩ := maySignBlock_effect hm g genesis c
    exact leads_of_tables hchange hchange.idOf he
  | maySignAttestation genesis c =>
    simp only [Operation.performWithin, Operation.perform, Request.answered_apply]
    obtain ⟨t', metrics, hchange, he, -⟩ := maySignAttestation_effect hm g genesis c
    exact leads_of_tables hchange hchange.idOf he
  | prune id window =>
    simp only [Operation.performWithin, Request.answered_apply]
    obtain ⟨t', metrics, ht, he⟩ := pruneWithin_trims (rounds id) id window hm g.wellFormed
    rw [he]
    exact quietly (quietly_of_trims ht)
  | pruneAll window =>
    simp only [Operation.performWithin, Request.answered_apply]
    obtain ⟨t', metrics, ht, he⟩ := pruneAllWithin_trims rounds window hm g
    rw [he]
    exact quietly (quietly_of_trims ht)

end Steps

inductive Event where
  | request (op : Operation)
  /-- The service is closed and opened anew. -/
  | restart (service : Service)
  /-- Others take or release the write lock and connections of the pools. -/
  | disturb (locked : Bool) (decisions cleaning : Pool)

structure Run where
  engine : Engine
  /-- All rows that the tables have gained. -/
  history : History := {}
  /-- All requests and their answers. -/
  journal : List (Operation × Except ProtectionError Answer) := []

def Service.opened (service : Service) : Service := { service with known := [] }

def Engine.fresh (writeAhead locked : Bool) (metrics : Metrics) (service : Service) : Engine :=
  { database := { Database.fresh with writeAhead }, locked, metrics, service := service.opened }

namespace Run

def next (act : Operation → Request Answer) (run : Run) : Event → Run
  | .request op =>
    let result := (act op).run run.engine
    { engine := result.2
      history := run.history.extend run.engine.tables result.2.tables
      journal := run.journal ++ [(op, result.1)] }
  | .restart service => { run with engine := { run.engine with service := service.opened } }
  | .disturb locked decisions cleaning =>
    { run with
      engine := { run.engine with locked, service := { run.engine.service with decisions, cleaning } } }

def after (run : Run) (events : List Event) : Run := events.foldl (next Operation.perform) run

/-- The run after some events, where each prune run of a validator stops after a limited number of batches. -/
def afterWithin (run : Run) (script : List (Event × (ValidatorId → Rounds))) : Run :=
  script.foldl (fun run step => run.next (·.performWithin step.2) step.1) run

theorem after_eq (run : Run) (events : List Event) :
    run.after events = run.afterWithin (events.map fun event => (event, fun _ => .all)) := by
  have hp : Operation.perform = fun op => op.performWithin fun _ => .all := funext Operation.perform_eq
  simp only [after, afterWithin, List.foldl_map, hp]

def Backed (h : History) : Operation × Except ProtectionError Answer → Prop
  | (.maySignBlock _ c, .ok (.decided .allow)) =>
    ∃ r ∈ h.blocks, r.validator = c.validator ∧ r.slot = (c.slot : Int) ∧ r.root = c.root.toList
  | (.maySignAttestation _ c, .ok (.decided .allow)) =>
    ∃ r ∈ h.attestations, r.validator = c.validator ∧ r.target = (c.target : Int) ∧ r.root = c.root.toList
  | _ => True

structure Sound (run : Run) : Prop where
  engine : run.engine.Sound run.history
  backed : ∀ entry ∈ run.journal, Backed run.history entry

variable {run : Run}

theorem sound_fresh (writeAhead locked : Bool) (metrics : Metrics) (service : Service) :
    Sound { engine := .fresh writeAhead locked metrics service } where
  engine := ⟨rfl, guards_empty _, fun _ _ hk => by cases hk⟩
  backed _ he := by cases he

theorem Backed.extend {h : History} {entry : Operation × Except ProtectionError Answer} (hb : Backed h entry)
    (t t' : Tables) : Backed (h.extend t t') entry := by
  unfold Backed at hb ⊢
  split at hb
  · obtain ⟨r, hr, he⟩ := hb
    exact ⟨r, List.mem_append_left _ hr, he⟩
  · obtain ⟨r, hr, he⟩ := hb
    exact ⟨r, List.mem_append_left _ hr, he⟩
  · trivial

/-- A new answer that permits is backed by a row that is in the tables at that time. -/
theorem backed_performWithin {e : Engine} {h : History} (hs : e.Sound h) (rounds : ValidatorId → Rounds)
    (op : Operation) :
    Backed (h.extend e.tables (op.performWithin rounds e).2.tables) (op, (op.performWithin rounds e).1) := by
  have hg := (hs.leads (performWithin_leads rounds op hs)).guards
  cases op with
  | maySignBlock genesis c =>
    simp only [Operation.performWithin, Operation.perform, Request.answered_apply] at hg ⊢
    obtain ⟨t', metrics, -, he, hback⟩ := maySignBlock_effect hs.installed hs.guards genesis c
    cases ho : (Request.maySignBlock genesis c e).1 with
    | error cause => trivial
    | ok d =>
      cases d with
      | deny reason => trivial
      | allow =>
        obtain ⟨r, hr, hslot, hroot⟩ := hback ho
        obtain ⟨hm, hid⟩ := Tables.mem_blocksOf.mp hr
        rw [he] at hg ⊢
        exact ⟨r, hg.blocks.subset hm, hid, hslot, hroot⟩
  | maySignAttestation genesis c =>
    simp only [Operation.performWithin, Operation.perform, Request.answered_apply] at hg ⊢
    obtain ⟨t', metrics, -, he, hback⟩ := maySignAttestation_effect hs.installed hs.guards genesis c
    cases ho : (Request.maySignAttestation genesis c e).1 with
    | error cause => trivial
    | ok d =>
      cases d with
      | deny reason => trivial
      | allow =>
        obtain ⟨r, hr, htarget, hroot⟩ := hback ho
        obtain ⟨hm, hid⟩ := Tables.mem_attestationsOf.mp hr
        rw [he] at hg ⊢
        exact ⟨r, hg.attestations.subset hm, hid, htarget, hroot⟩
  | _ => trivial

theorem Sound.next (hs : run.Sound) (rounds : ValidatorId → Rounds) (event : Event) :
    (run.next (·.performWithin rounds) event).Sound := by
  cases event with
  | request op =>
    refine ⟨hs.engine.leads (performWithin_leads rounds op hs.engine), fun entry he => ?_⟩
    rcases List.mem_append.mp he with he | he
    · exact (hs.backed entry he).extend _ _
    · obtain rfl := List.mem_singleton.mp he
      exact backed_performWithin hs.engine rounds op
  | restart service => exact ⟨⟨hs.engine.installed, hs.engine.guards, fun _ _ hk => by cases hk⟩, hs.backed⟩
  | disturb locked decisions cleaning =>
    exact ⟨⟨hs.engine.installed, hs.engine.guards, hs.engine.coherent⟩, hs.backed⟩

theorem Sound.afterWithin (hs : run.Sound) (script : List (Event × (ValidatorId → Rounds))) :
    (run.afterWithin script).Sound := by
  induction script generalizing run with
  | nil => exact hs
  | cons step rest ih => exact ih (hs.next step.2 step.1)

theorem Sound.after (hs : run.Sound) (events : List Event) : (run.after events).Sound := by
  rw [after_eq]
  exact hs.afterWithin _

/-- Whatever happens leaves the database as it is opened. -/
theorem Sound.database_afterWithin (hs : run.Sound) (script : List (Event × (ValidatorId → Rounds))) :
    (run.afterWithin script).engine.database =
      { run.engine.database with tables := (run.afterWithin script).engine.tables } := by
  induction script generalizing run with
  | nil => rfl
  | cons step rest ih =>
    have hnext : (run.next (·.performWithin step.2) step.1).engine.database =
        { run.engine.database with tables := (run.next (·.performWithin step.2) step.1).engine.tables } := by
      cases step.1 with
      | request op => exact congrArg Engine.database (performWithin_leads step.2 op hs.engine).same
      | restart service => rfl
      | disturb locked decisions cleaning => rfl
    refine (ih (hs.next step.2 step.1)).trans ?_
    rw [hnext]
    rfl

/-- A run over a freshly installed database goes on over a sound engine that can write. -/
theorem reached (writeAhead locked : Bool) (metrics : Metrics) (service : Service)
    (script : List (Event × (ValidatorId → Rounds))) :
    let run := ({ engine := .fresh writeAhead locked metrics service } : Run).afterWithin script
    run.Sound ∧ run.engine.database.readOnly = false := by
  intro run
  have hstart := sound_fresh writeAhead locked metrics service
  have hdb : run.engine.database = _ := hstart.database_afterWithin script
  refine ⟨hstart.afterWithin script, ?_⟩
  rw [hdb]
  rfl

/-- Whatever is asked for in a run, and however far pruning gets in it, all rows ever recorded keep the law of
slashing, and every permission agrees with one of them. -/
theorem ever_recorded_lawful (writeAhead locked : Bool) (metrics : Metrics) (service : Service)
    (script : List (Event × (ValidatorId → Rounds))) :
    let run := ({ engine := .fresh writeAhead locked metrics service } : Run).afterWithin script
    (run.history.attestations.Pairwise fun a b => a.validator = b.validator →
      a.target ≠ b.target ∧ ¬ (a.source < b.source ∧ b.target < a.target) ∧
        ¬ (b.source < a.source ∧ a.target < b.target)) ∧
    (∀ r ∈ run.history.attestations, r.source ≤ r.target) ∧
    (run.history.blocks.Pairwise fun a b => a.validator = b.validator → a.slot ≠ b.slot) ∧
    (∀ genesis c, (.maySignBlock genesis c, .ok (.decided .allow)) ∈ run.journal →
      ∃ r ∈ run.history.blocks, r.validator = c.validator ∧ r.slot = (c.slot : Int) ∧ r.root = c.root.toList) ∧
    ∀ genesis c, (.maySignAttestation genesis c, .ok (.decided .allow)) ∈ run.journal →
      ∃ r ∈ run.history.attestations,
        r.validator = c.validator ∧ r.target = (c.target : Int) ∧ r.root = c.root.toList := by
  intro run
  have hs : run.Sound := (sound_fresh writeAhead locked metrics service).afterWithin script
  obtain ⟨hblocks, hattestations, hordered⟩ := hs.engine.guards.lawful
  exact ⟨hattestations, hordered, hblocks, fun genesis c he => hs.backed _ he, fun genesis c he => hs.backed _ he⟩

end Run
end ValidatorSigner.Protection
