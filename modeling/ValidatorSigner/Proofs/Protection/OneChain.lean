import Mathlib.Algebra.Group.Nat.Defs
import ValidatorSigner.Proofs.Protection.OnChain

/-! # One chain for each database

The first request on a chain that is not answered with an error decides which chain the database belongs to.
From then on it belongs to that chain, whatever happens, and no other chain gets a permission or a write.
-/
namespace ValidatorSigner.Protection
open Store Telemetry

namespace Operation

def root? : Operation → Option Root
  | checkGenesis root => some root
  | maySignBlock genesis _ => genesis
  | maySignAttestation genesis _ => genesis
  | _ => none

/-- The genesis root that a request takes to the database. An attestation whose source lies after its target is
refused before that. -/
def chain? : Operation → Option Root
  | maySignAttestation genesis c => if c.target < c.source then none else genesis
  | op => op.root?

end Operation

def bindsTo : Operation × Except ProtectionError Answer → Option Root
  | (op, .ok _) => op.chain?
  | (_, .error _) => none

theorem bindsTo_eq_none {op : Operation} (h : op.chain? = none) (answer : Except ProtectionError Answer) :
    bindsTo (op, answer) = none := by
  cases answer with
  | ok a => exact h
  | error cause => rfl

section Tables
variable {t t' : Tables} {root : Root}

theorem genesis_of_trims (ht : Relation.ReflTransGen Trim t t') : t'.genesis = t.genesis := by
  induction ht with
  | refl => rfl
  | tail _ hstep ih =>
    rw [← ih]
    cases hstep with
    | raise id window => exact (raised_rest _ id window).2.1
    | forget hf =>
      rw [hf.rest]

theorem genesis_or_elsewhere (h : t.BelongsElsewhere root) (other : Option (List UInt8)) :
    t.genesis.or other = t.genesis := by
  obtain ⟨bytes, hg, -⟩ := h
  rw [Option.mem_def.mp hg]
  rfl

theorem genesis_or_belongs (h : ¬ t.BelongsElsewhere root) : t.genesis.or (some root.toList) = some root.toList := by
  rcases genesis_cases h with hg | hg
  · rw [hg]
    rfl
  · rw [hg]
    rfl

theorem belongsElsewhere_of_ne {r : Root} (hg : t.genesis = some root.toList) (hne : r ≠ root) :
    t.BelongsElsewhere r := ⟨root.toList, hg, fun he => hne (FixedBytes.ext he).symm⟩

theorem not_belongsElsewhere_self (hg : t.genesis = some root.toList) : ¬ t.BelongsElsewhere root := by
  rintro ⟨bytes, hb, hne⟩
  rw [hg] at hb
  exact hne (Option.some.inj hb).symm

end Tables

section Steps
variable {e : Engine} {h : History} {root : Root}

theorem checkGenesis_answer (hs : e.Sound h) (hr : e.database.readOnly = false) (root : Root) :
    Request.checkGenesis root e =
      match e.obstacle? e.service.decisions with
      | some fault => e.failed "check_genesis" (.access fault)
      | none =>
        if e.tables.BelongsElsewhere root then (.ok false, e) else (.ok true, e.withTables (bound e.tables root)) := by
  unfold Request.checkGenesis
  cases hf : e.obstacle? e.service.decisions with
  | some fault => exact transactOn_of_obstacle hf
  | none =>
    dsimp only
    by_cases helse : e.tables.BelongsElsewhere root
    · rw [if_pos helse]
      exact transactOn_of_ok hf (checkGenesis_elsewhere hs.installed hs.guards.wellFormed helse)
    · rw [if_neg helse]
      exact transactOn_of_ok hf (checkGenesis_belongs hs.installed hs.guards.wellFormed hr helse)

/-- What comes of a request fits the chain of the tables: they belong to the chain that they belonged to, or else
to the one that the request binds them to, and a permission carries that one. -/
structure Settles (op : Operation) (e : Engine) (result : Except ProtectionError Answer × Engine) : Prop where
  genesis : result.2.tables.genesis = e.tables.genesis.or ((bindsTo (op, result.1)).map FixedBytes.toList)
  allowed : result.1 = .ok (.decided .allow) → ∀ root ∈ op.root?, result.2.tables.genesis = some root.toList

theorem Settles.of_keeps {op : Operation} {result : Except ProtectionError Answer × Engine} (hc : op.chain? = none)
    (hk : result.2.tables.genesis = e.tables.genesis)
    (ha : result.1 = .ok (.decided .allow) → op.root? = none) : Settles op e result where
  genesis := by
    rw [bindsTo_eq_none hc, Option.map_none, Option.or_none]
    exact hk
  allowed hallow root hroot := by
    rw [ha hallow] at hroot
    cases hroot

/-- A request that carries no root leaves the chain of the tables as it is. -/
theorem settles_of_rootless {rounds : ValidatorId → Rounds} {op : Operation} (hc : op.chain? = none)
    (hn : op.root? = none) (hk : Request.Keeps Tables.genesis (op.performWithin rounds)) :
    Settles op e (op.performWithin rounds e) := .of_keeps hc (hk e) fun _ => hn

/-- A decision behind a check of the chain binds the tables to it, unless they belong to another one or the
decision fails. -/
theorem settles_of_guarded {op : Operation} (hroot : op.root? = some root) (hchain : op.chain? = some root)
    {artifact : Artifact} {operation : String} {x plain : Except ProtectionError Decision × Engine}
    (hplain : plain.2.tables.genesis = e.tables.genesis)
    (hx : x = if e.tables.BelongsElsewhere root then e.mismatches artifact operation else binding root plain) :
    Settles op e (x.1.map .decided, x.2) := by
  subst hx
  by_cases helse : e.tables.BelongsElsewhere root
  · rw [if_pos helse, Engine.mismatches]
    cases e.obstacle? e.service.decisions with
    | some fault => exact ⟨(genesis_or_elsewhere helse _).symm, fun ha => by cases ha⟩
    | none => exact ⟨(genesis_or_elsewhere helse _).symm, fun ha => by cases ha⟩
  · rw [if_neg helse]
    obtain ⟨answer, e'⟩ := plain
    cases answer with
    | error cause => exact ⟨hplain.trans Option.or_none.symm, fun ha => by cases ha⟩
    | ok d =>
      refine ⟨?_, fun _ r hr => ?_⟩
      · have hbinds : bindsTo (op, .ok (.decided d)) = some root := hchain
        change some root.toList = e.tables.genesis.or ((bindsTo (op, .ok (.decided d))).map FixedBytes.toList)
        rw [hbinds]
        exact (genesis_or_belongs helse).symm
      · rw [hroot] at hr
        cases hr
        rfl

theorem performWithin_settles (rounds : ValidatorId → Rounds) (op : Operation) (hs : e.Sound h)
    (hr : e.database.readOnly = false) : Settles op e (op.performWithin rounds e) := by
  cases op with
  | resolveValidator key =>
    exact settles_of_rootless rfl rfl ((Request.keeps_resolveValidator (fun _ _ => rfl) key).answered _)
  | registerValidators keys =>
    exact settles_of_rootless rfl rfl ((Request.keeps_registerValidators (fun _ _ => rfl) keys).answered _)
  | validatorId key => exact settles_of_rootless rfl rfl ((Request.keeps_validatorId key).answered _)
  | allIds => exact settles_of_rootless rfl rfl (Request.keeps_allIds.answered _)
  | genesisExists => exact settles_of_rootless rfl rfl (Request.keeps_genesisExists.answered _)
  | checkGenesis root =>
    simp only [Operation.performWithin, Operation.perform, Request.answered_apply]
    rw [checkGenesis_answer hs hr]
    cases e.obstacle? e.service.decisions with
    | some fault => exact ⟨Option.or_none.symm, fun ha => by cases ha⟩
    | none =>
      dsimp only
      by_cases helse : e.tables.BelongsElsewhere root
      · rw [if_pos helse]
        exact ⟨(genesis_or_elsewhere helse _).symm, fun ha => by cases ha⟩
      · rw [if_neg helse]
        exact ⟨(genesis_or_belongs helse).symm, fun ha => by cases ha⟩
  | maySignBlock genesis c =>
    cases genesis with
    | none => exact settles_of_rootless rfl rfl ((Request.keeps_genesis_block c).answered _)
    | some root =>
      simp only [Operation.performWithin, Operation.perform, Request.answered_apply]
      exact settles_of_guarded rfl rfl (Request.keeps_genesis_block c e) (maySignBlock_onChain hs hr root c)
  | maySignAttestation genesis c =>
    have hplain := Request.keeps_genesis_attestation c
    simp only [Operation.performWithin, Operation.perform, Request.answered_apply]
    by_cases hlt : c.target < c.source
    · rw [maySignAttestation_inverted genesis hlt]
      exact .of_keeps (if_pos hlt) rfl fun ha => by cases ha
    · cases genesis with
      | none => exact .of_keeps (if_neg hlt) (hplain e) fun _ => rfl
      | some root =>
        have hchain : (Operation.maySignAttestation (some root) c).chain? = some root := if_neg hlt
        exact settles_of_guarded rfl hchain (hplain e) (maySignAttestation_onChain hs hr root (Nat.not_lt.mp hlt))
  | prune id window =>
    simp only [Operation.performWithin, Request.answered_apply]
    obtain ⟨t', metrics, ht, he⟩ := pruneWithin_trims (rounds id) id window hs.installed hs.guards.wellFormed
    rw [he]
    exact .of_keeps rfl (genesis_of_trims ht) fun _ => rfl
  | pruneAll window =>
    simp only [Operation.performWithin, Request.answered_apply]
    obtain ⟨t', metrics, ht, he⟩ := pruneAllWithin_trims rounds window hs.installed hs.guards
    rw [he]
    exact .of_keeps rfl (genesis_of_trims ht) fun _ => rfl

end Steps

namespace Run

/-- What holds at every time of the chain of a run: the first request that could bind the tables has done so, and
all permissions on a chain are on that one. -/
structure OnOneChain (run : Run) : Prop where
  sound : run.Sound
  writable : run.engine.database.readOnly = false
  first : run.engine.tables.genesis = (run.journal.findSome? bindsTo).map FixedBytes.toList
  allowed : ∀ op, (op, .ok (.decided .allow)) ∈ run.journal → ∀ root ∈ op.root?,
    run.engine.tables.genesis = some root.toList

variable {run : Run}

theorem OnOneChain.next (hc : run.OnOneChain) (rounds : ValidatorId → Rounds) (event : Event) :
    (run.next (·.performWithin rounds) event).OnOneChain := by
  cases event with
  | restart service => exact ⟨hc.sound.next rounds (.restart service), hc.writable, hc.first, hc.allowed⟩
  | disturb locked decisions cleaning =>
    exact ⟨hc.sound.next rounds (.disturb locked decisions cleaning), hc.writable, hc.first, hc.allowed⟩
  | request op =>
    have hsettles := performWithin_settles rounds op hc.sound.engine hc.writable
    refine ⟨hc.sound.next rounds (.request op), ?_, ?_, fun op' he root hroot => ?_⟩
    · have hsame := congrArg (·.database.readOnly) (performWithin_leads rounds op hc.sound.engine).same
      exact hsame.trans hc.writable
    · have hgenesis := hsettles.genesis
      rw [hc.first, ← Option.map_or] at hgenesis
      refine hgenesis.trans ?_
      simp only [Run.next, List.findSome?_append, List.findSome?_singleton]
      rfl
    · rcases List.mem_append.mp he with he | he
      · have hg := hc.allowed op' he root hroot
        have hgenesis := hsettles.genesis
        rw [hg] at hgenesis
        exact hgenesis
      · obtain ⟨rfl, ha⟩ := Prod.mk.inj (List.mem_singleton.mp he)
        exact hsettles.allowed ha.symm root hroot

theorem OnOneChain.afterWithin (hc : run.OnOneChain) (script : List (Event × (ValidatorId → Rounds))) :
    (run.afterWithin script).OnOneChain := by
  induction script generalizing run with
  | nil => exact hc
  | cons step rest ih => exact ih (hc.next step.2 step.1)

theorem OnOneChain.genesis_afterWithin (hc : run.OnOneChain) (script : List (Event × (ValidatorId → Rounds)))
    {bytes : List UInt8} (hg : run.engine.tables.genesis = some bytes) :
    (run.afterWithin script).engine.tables.genesis = some bytes := by
  induction script generalizing run with
  | nil => exact hg
  | cons step rest ih =>
    have hnext : (run.next (·.performWithin step.2) step.1).engine.tables.genesis = some bytes := by
      cases step.1 with
      | restart service => exact hg
      | disturb locked decisions cleaning => exact hg
      | request op =>
        have hgenesis := (performWithin_settles step.2 op hc.sound.engine hc.writable).genesis
        rw [hg] at hgenesis
        exact hgenesis
    exact ih (hc.next step.2 step.1) hnext

theorem onOneChain_fresh (writeAhead locked : Bool) (metrics : Metrics) (service : Service) :
    OnOneChain { engine := .fresh writeAhead locked metrics service } where
  sound := sound_fresh writeAhead locked metrics service
  writable := rfl
  first := rfl
  allowed _ he := by cases he

/-- In every run the database belongs to the chain of the first request on a chain that was not answered with an
error, be the answer a refusal; an attestation whose source lies after its target does not count. From then on
it stays there. Only that chain is told that the database belongs to it, any other is refused before anything is
written, and every permission on a chain is on that one. -/
theorem one_chain (writeAhead locked : Bool) (metrics : Metrics) (service : Service)
    (script : List (Event × (ValidatorId → Rounds))) :
    let run := ({ engine := .fresh writeAhead locked metrics service } : Run).afterWithin script
    let e := run.engine
    e.tables.genesis = (run.journal.findSome? bindsTo).map FixedBytes.toList ∧
    (∀ root, e.tables.genesis = some root.toList →
      (∀ more, (run.afterWithin more).engine.tables.genesis = some root.toList) ∧
      (∀ r, Request.checkGenesis r e =
        match e.obstacle? e.service.decisions with
        | some fault => e.failed "check_genesis" (.access fault)
        | none => (.ok (decide (r = root)), e)) ∧
      (∀ r c, r ≠ root → Request.maySignBlock (some r) c e = e.mismatches .block "may_sign_block") ∧
      ∀ r c, r ≠ root → c.source ≤ c.target →
        Request.maySignAttestation (some r) c e = e.mismatches .attestation "may_sign_attestation") ∧
    (∀ root c, (.maySignBlock (some root) c, .ok (.decided .allow)) ∈ run.journal →
      e.tables.genesis = some root.toList) ∧
    ∀ root c, (.maySignAttestation (some root) c, .ok (.decided .allow)) ∈ run.journal →
      e.tables.genesis = some root.toList := by
  intro run e
  have hc : run.OnOneChain := (onOneChain_fresh writeAhead locked metrics service).afterWithin script
  refine ⟨hc.first, fun root hg => ⟨fun more => hc.genesis_afterWithin more hg, fun r => ?_, fun r c hne => ?_,
    fun r c hne hle => ?_⟩, fun root c he => hc.allowed _ he root rfl, fun root c he => hc.allowed _ he root rfl⟩
  · rw [checkGenesis_answer hc.sound.engine hc.writable]
    cases e.obstacle? e.service.decisions with
    | some fault => rfl
    | none =>
      dsimp only
      by_cases hr : r = root
      · subst hr
        rw [if_neg (not_belongsElsewhere_self hg), decide_eq_true rfl]
        exact congrArg (fun t => (_, e.withTables t)) (bound_of_genesis hg)
      · rw [if_pos (belongsElsewhere_of_ne hg hr), decide_eq_false hr]
  · rw [maySignBlock_onChain hc.sound.engine hc.writable, if_pos (belongsElsewhere_of_ne hg hne)]
  · rw [maySignAttestation_onChain hc.sound.engine hc.writable r hle, if_pos (belongsElsewhere_of_ne hg hne)]

def lateRoot : Root := ⟨List.replicate 32 5, rfl⟩

def earlyRoot : Root := ⟨List.replicate 32 6, rfl⟩

/-- One chain fails to bind the database with an unknown validator and with inverted epochs. Then another one
succeeds, although all that it gets is the refusal of a double vote. -/
def rivalScript : List (Event × (ValidatorId → Rounds)) :=
  [.registerValidators [⟨List.replicate 48 5, rfl⟩], .maySignAttestation none ⟨1, 0, 3, lateRoot⟩,
    .maySignBlock (some lateRoot) ⟨9, 5, lateRoot⟩, .maySignAttestation (some lateRoot) ⟨1, 4, 3, lateRoot⟩,
    .maySignAttestation (some earlyRoot) ⟨1, 0, 3, earlyRoot⟩].map fun op => (.request op, fun _ => .all)

theorem one_chain_of_refusal :
    let run := ({ engine := .fresh false false {} {} } : Run).afterWithin rivalScript
    run.journal.getLast?.map (·.2) = some (.ok (.decided (.deny .doubleVote))) ∧
      run.engine.tables.genesis = some earlyRoot.toList ∧
      Request.checkGenesis lateRoot run.engine = (.ok false, run.engine) ∧
      Request.checkGenesis earlyRoot run.engine = (.ok true, run.engine) := by
  intro run
  obtain ⟨hfirst, hbound, -⟩ := one_chain false false {} {} rivalScript
  have hbinds : run.journal.findSome? bindsTo = some earlyRoot := by rfl
  have hg : run.engine.tables.genesis = some earlyRoot.toList :=
    hfirst.trans (congrArg (Option.map FixedBytes.toList) hbinds)
  obtain ⟨-, hcheck, -⟩ := hbound earlyRoot hg
  have hrefused : run.journal.getLast?.map (·.2) = some (.ok (.decided (.deny .doubleVote))) := by rfl
  have hfree : run.engine.obstacle? run.engine.service.decisions = none := by rfl
  have hne : decide (lateRoot = earlyRoot) = false := by rfl
  refine ⟨hrefused, hg, (hcheck lateRoot).trans ?_, (hcheck earlyRoot).trans ?_⟩
  · rw [hfree, hne]
  · rw [hfree, decide_eq_true rfl]

end Run
end ValidatorSigner.Protection
