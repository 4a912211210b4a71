import ValidatorSigner.Proofs.Signing.Permission
import ValidatorSigner.Proofs.Signing.Starting

/-! # Runs of a signer

A deployment is a host on which a signer is started, called and shut down, any number of times. All calls and
replies are logged. As long as every signer runs under protection, over one database, the tables of that
database guard a history in which everything that was ever signed is on record.
-/
namespace ValidatorSigner
open Keys Protection Signing Store Telemetry

abbrev KeyProvider := Disk → Except KeyError KeyRing

inductive Call where
  /-- A signer is started; one that was running is gone. -/
  | start (settings : Settings) (provider : KeyProvider)
  | shutdown
  | sign (key : PublicKey) (genesis : Root) (duty : Duty) (root : Root)
  | signMessage (key : PublicKey) (message : List UInt8)
  /-- A request to protection itself. Prune runs may be cut off after some batches. -/
  | request (op : Operation) (rounds : ValidatorId → Rounds)
  /-- Others take or release the write lock. -/
  | lock (locked : Bool)
  /-- Others take or release connections of the pools, or the pools are closed. -/
  | occupy (decisions cleaning : Pool)

inductive Reply where
  | silence
  | started (outcome : Except StartError Unit)
  | duty (outcome : Except HandlerError Outcome)
  | message (outcome : Except HandlerError Signature)
  | answered (outcome : Except ProtectionError Answer)

namespace Daemon

def startBy (settings : Settings) (provider : KeyProvider) (host : Host) : Except StartError Daemon × Host :=
  match provider host.disk with
  | .error e => (.error (.keys settings.keysPath e), host)
  | .ok ring => startWith settings ring host

theorem start_eq (settings : Settings) : start settings = startBy settings (·.keyRing settings.keysPath) := rfl

def request (daemon : Daemon) (op : Request Answer) (host : Host) : Reply × Daemon × Host :=
  match daemon.context? with
  | none => (.silence, daemon, host)
  | some context =>
    let (outcome, context, host) := host.run context op
    (.answered outcome, { daemon with context? := some context }, host)

def occupy (daemon : Daemon) (decisions cleaning : Pool) : Daemon :=
  { daemon with
    context? := daemon.context?.map fun context =>
      { context with service := { context.service with decisions, cleaning } } }

def Over (n : Nat) (daemon : Daemon) : Prop :=
  ∃ context, daemon.context? = some context ∧ context.connection.number? = some n

end Daemon

structure Deployment where
  host : Host
  daemon? : Option Daemon := none
  log : List (Call × Reply) := []

namespace Deployment

/-- What happens at a call. A signer that does not run does not answer. -/
def respond (host : Host) (daemon? : Option Daemon) (call : Call) : Reply × Option Daemon × Host :=
  match call, daemon? with
  | .start settings provider, _ =>
    match Daemon.startBy settings provider host with
    | (.error e, host) => (.started (.error e), none, host)
    | (.ok daemon, host) => (.started (.ok ()), some daemon, host)
  | .shutdown, _ => (.silence, none, host)
  | .lock locked, _ => (.silence, daemon?, { host with locked })
  | _, none => (.silence, none, host)
  | .sign key genesis duty root, some daemon =>
    let (outcome, daemon, host) := daemon.sign key genesis duty root host
    (.duty outcome, some daemon, host)
  | .signMessage key message, some daemon =>
    let (outcome, host) := daemon.signMessage key message host
    (.message outcome, some daemon, host)
  | .request op rounds, some daemon =>
    let (reply, daemon, host) := daemon.request (op.performWithin rounds) host
    (reply, some daemon, host)
  | .occupy decisions cleaning, some daemon => (.silence, some (daemon.occupy decisions cleaning), host)

def next (site : Deployment) (call : Call) : Deployment :=
  let (reply, daemon?, host) := respond site.host site.daemon? call
  { host, daemon?, log := site.log ++ [(call, reply)] }

def after (site : Deployment) (calls : List Call) : Deployment := calls.foldl next site

def Over (n : Nat) (site : Deployment) : Prop := ∀ daemon ∈ site.daemon?, daemon.Over n

def Stays (n : Nat) (site : Deployment) (calls : List Call) : Prop := ∀ k, (site.after (calls.take k)).Over n

end Deployment

structure Vote where
  source : Nat
  target : Nat
  root : Root
deriving DecidableEq

def Call.vote? : Call → Option Vote
  | .sign _ _ (.attestation source target) root => some ⟨source, target, root⟩
  | .request (.maySignAttestation _ c) _ => some ⟨c.source, c.target, c.root⟩
  | _ => none

def Call.Asks (call : Call) (r : AttestationRow) : Prop :=
  ∃ vote, call.vote? = some vote ∧
    r.source = (vote.source : Int) ∧ r.target = (vote.target : Int) ∧ r.root = vote.root.toList

namespace Deployment

def Signed (site : Deployment) (key : PublicKey) (duty : Duty) (root : Root) : Prop :=
  ∃ genesis signature, (Call.sign key genesis duty root, Reply.duty (.ok (.signed signature))) ∈ site.log

def Coherent (t : Tables) (daemon? : Option Daemon) : Prop :=
  ∀ daemon ∈ daemon?, ∀ context, daemon.context? = some context → context.service.Coherent t

structure Sound (n : Nat) (site : Deployment) (t : Tables) (h : History) : Prop where
  holds : site.host.disk.Holds n t
  guards : Guards t h
  coherent : Coherent t site.daemon?
  recorded : ∀ key duty root, site.Signed key duty root → duty.Recorded t h key root
  asked : ∀ r ∈ h.attestations, ∃ entry ∈ site.log, entry.1.Asks r

structure Step (n : Nat) (t : Tables) (h : History) (call : Call) (result : Reply × Option Daemon × Host)
    (t' : Tables) (h' : History) : Prop where
  holds : result.2.2.disk.Holds n t'
  guards : Guards t' h'
  coherent : Coherent t' result.2.1
  numbers : ∀ {key id}, t.idOf key = some id → t'.idOf key = some id
  blocks : h.blocks ⊆ h'.blocks
  attestations : h.attestations ⊆ h'.attestations
  recorded : ∀ key genesis duty root signature, call = .sign key genesis duty root →
    result.1 = .duty (.ok (.signed signature)) → duty.Recorded t' h' key root
  asked : ∀ r ∈ h'.attestations, r ∈ h.attestations ∨ call.Asks r

section Steps
variable {n : Nat} {t t' : Tables} {h : History} {host host' : Host} {call : Call}

theorem Step.quiet (g : Guards t h) (hq : Quietly t t') {result : Reply × Option Daemon × Host}
    (hh : result.2.2.disk.Holds n t') (hc : Coherent t' result.2.1)
    (hr : ∀ signature, result.1 ≠ .duty (.ok (.signed signature))) : Step n t h call result t' h where
  holds := hh
  guards := g.quietly hq
  coherent := hc
  numbers := idOf_of_quietly hq
  blocks := List.Subset.refl _
  attestations := List.Subset.refl _
  recorded _ _ _ _ signature _ ho := absurd ho (hr signature)
  asked _ hr := .inl hr

theorem start_step (hh : host.disk.Holds n t) (g : Guards t h) (settings : Settings) (provider : KeyProvider)
    (daemon? : Option Daemon)
    (hover : ∀ daemon ∈ (respond host daemon? (.start settings provider)).2.1, daemon.Over n) :
    ∃ t' h', Step n t h (.start settings provider) (respond host daemon? (.start settings provider)) t' h' := by
  have hs : ∃ t', Quietly t t' ∧ (Daemon.startBy settings provider host).2.disk.Holds n t' ∧
      ∀ daemon, (Daemon.startBy settings provider host).1 = .ok daemon → ∀ context, daemon.context? = some context →
        context.connection.number? = some n → context.service.Coherent t' := by
    unfold Daemon.startBy
    cases hp : provider host.disk with
    | error e => exact ⟨t, .refl, hh, fun _ ho => by cases ho⟩
    | ok ring => exact startWith_leads hh g settings ring
  obtain ⟨t', hq, hheld, hnew⟩ := hs
  unfold respond at hover ⊢
  cases hb : Daemon.startBy settings provider host with
  | mk outcome host' =>
    rw [hb] at hheld hnew
    simp only [hb] at hover ⊢
    cases outcome with
    | error e => exact ⟨t', h, .quiet g hq hheld (fun _ hm => by cases hm) fun _ ho => by cases ho⟩
    | ok daemon =>
      refine ⟨t', h, .quiet g hq hheld (fun other hm context hc => ?_) fun _ ho => by cases ho⟩
      cases hm
      obtain ⟨context', hc', hn⟩ := hover daemon rfl
      rw [hc] at hc'
      cases hc'
      exact hnew daemon rfl context hc hn

theorem sign_eq {daemon : Daemon} {context : Context} (hd : daemon.context? = some context) (key : PublicKey)
    (genesis : Root) (duty : Duty) (root : Root) (host : Host) :
    daemon.sign key genesis duty root host =
      let acted := host.act context (signProtected daemon.ring key genesis duty root).run
      (acted.1, { daemon with context? := some acted.2.1 }, acted.2.2) := by
  unfold Daemon.sign
  rw [hd]

/-- A signer that runs over the database answers a request for a duty. -/
theorem sign_step (hh : host.disk.Holds n t) (g : Guards t h) {daemon : Daemon} (hd : daemon.Over n)
    (hc : Coherent t (some daemon)) (key : PublicKey) (genesis : Root) (duty : Duty) (root : Root) :
    ∃ t' h', Step n t h (.sign key genesis duty root)
      (respond host (some daemon) (.sign key genesis duty root)) t' h' := by
  obtain ⟨context, hcontext, hn⟩ := hd
  have hcoherent := hc daemon rfl context hcontext
  obtain ⟨hm, ht⟩ := engine_installed hh hn
  have hs : (host.engine context).Sound h := ⟨hm, ht ▸ g, ht ▸ hcoherent⟩
  obtain ⟨hl, hsigned⟩ := signProtected_leads hs daemon.ring key genesis duty root
  obtain ⟨t', ht', hleaves, hresult, hheld, -, hknown⟩ := act_here hh hn hl
  rw [ht] at hleaves
  rw [← ht'] at hsigned
  obtain ⟨h', g', hb, ha, hnew⟩ := hleaves.guards g
  refine ⟨t', h', ?_⟩
  simp only [respond, sign_eq hcontext]
  exact {
    holds := hheld
    guards := g'
    coherent := by
      rintro other hm other_context hc
      cases hm
      cases hc
      exact hknown hcoherent
    numbers := hleaves.idOf
    blocks := hb
    attestations := ha
    recorded := by
      intro key' genesis' duty' root' signature hcall ho
      cases hcall
      rw [Reply.duty.injEq] at ho
      exact hsigned signature (hresult.symm.trans ho) h' g'
    asked := by
      intro r hr
      rcases hnew r hr with hold | ⟨source, target, rfl, hrow⟩
      · exact .inl hold
      · exact .inr ⟨⟨source, target, root⟩, rfl, hrow⟩ }

theorem vote?_of_offer {op : Operation} {c : Attestation} (ho : op.offer = .attestation c)
    (rounds : ValidatorId → Rounds) : (Call.request op rounds).vote? = some ⟨c.source, c.target, c.root⟩ := by
  cases op with
  | maySignAttestation genesis c' =>
    cases ho
    rfl
  | _ => cases ho

/-- A signer that runs over the database carries out a request to its protection. -/
theorem request_step (hh : host.disk.Holds n t) (g : Guards t h) {daemon : Daemon} (hd : daemon.Over n)
    (hc : Coherent t (some daemon)) (op : Operation) (rounds : ValidatorId → Rounds) :
    ∃ t' h', Step n t h (.request op rounds) (respond host (some daemon) (.request op rounds)) t' h' := by
  obtain ⟨context, hcontext, hn⟩ := hd
  have hcoherent := hc daemon rfl context hcontext
  obtain ⟨hm, ht⟩ := engine_installed hh hn
  have hs : (host.engine context).Sound h := ⟨hm, ht ▸ g, ht ▸ hcoherent⟩
  obtain ⟨t', -, hchange, -, hheld, -, hknown⟩ := act_here hh hn (performWithin_leads rounds op hs)
  rw [ht] at hchange
  obtain ⟨g', hb, ha, hnew⟩ := hchange.goesOn g
  refine ⟨t', h.extend t t', ?_⟩
  simp only [respond, Daemon.request, hcontext]
  exact {
    holds := hheld
    guards := g'
    coherent := by
      rintro other hm other_context hc
      cases hm
      cases hc
      exact hknown hcoherent
    numbers := hchange.idOf
    blocks := hb
    attestations := ha
    recorded := fun _ _ _ _ _ hcall => by cases hcall
    asked := by
      intro r hr
      rcases hnew r hr with hold | ⟨c, ho, rfl⟩
      · exact .inl hold
      · exact .inr ⟨_, vote?_of_offer ho rounds, rfl, rfl, rfl⟩ }

/-- Whatever is called, no record is lost and no signature goes without one. -/
theorem respond_step (hh : host.disk.Holds n t) (g : Guards t h) {daemon? : Option Daemon}
    (hd : ∀ daemon ∈ daemon?, daemon.Over n) (hc : Coherent t daemon?) (call : Call)
    (hover : ∀ daemon ∈ (respond host daemon? call).2.1, daemon.Over n) :
    ∃ t' h', Step n t h call (respond host daemon? call) t' h' := by
  have idle {reply : Reply} (hr : ∀ signature, reply ≠ .duty (.ok (.signed signature))) :
      ∃ t' h', Step n t h call (reply, none, host) t' h' :=
    ⟨t, h, .quiet g .refl hh (fun _ hm => by cases hm) hr⟩
  cases call with
  | start settings provider => exact start_step hh g settings provider daemon? hover
  | shutdown => exact idle fun _ ho => by cases ho
  | lock locked => exact ⟨t, h, .quiet g .refl hh hc fun _ ho => by cases ho⟩
  | sign key genesis duty root =>
    cases daemon? with
    | none => exact idle fun _ ho => by cases ho
    | some daemon => exact sign_step hh g (hd daemon rfl) hc key genesis duty root
  | signMessage key message =>
    cases daemon? with
    | none => exact idle fun _ ho => by cases ho
    | some daemon => exact ⟨t, h, .quiet g .refl hh hc fun _ ho => by cases ho⟩
  | request op rounds =>
    cases daemon? with
    | none => exact idle fun _ ho => by cases ho
    | some daemon => exact request_step hh g (hd daemon rfl) hc op rounds
  | occupy decisions cleaning =>
    cases daemon? with
    | none => exact idle fun _ ho => by cases ho
    | some daemon =>
      refine ⟨t, h, .quiet g .refl hh ?_ fun _ ho => by cases ho⟩
      rintro other hm context hcontext
      cases hm
      obtain ⟨before, hbefore, rfl⟩ := Option.map_eq_some_iff.mp hcontext
      exact hc daemon rfl before hbefore

end Steps

section Runs
variable {n : Nat} {t : Tables} {h : History} {site : Deployment}

theorem Sound.next (hs : site.Sound n t h) {call : Call} (hover : site.Over n) (hnext : (site.next call).Over n) :
    ∃ t' h', (site.next call).Sound n t' h' := by
  obtain ⟨t', h', step⟩ := respond_step hs.holds hs.guards hover hs.coherent call hnext
  refine ⟨t', h', step.holds, step.guards, step.coherent, ?_, ?_⟩
  · rintro key duty root ⟨genesis, signature, hm⟩
    rcases List.mem_append.mp hm with hm | hm
    · have hr := hs.recorded key duty root ⟨genesis, signature, hm⟩
      exact hr.mono step.numbers step.blocks step.attestations
    · have he := List.mem_singleton.mp hm
      rw [Prod.mk.injEq] at he
      exact step.recorded key genesis duty root signature he.1.symm he.2.symm
  · intro r hr
    rcases step.asked r hr with hold | hnew
    · obtain ⟨entry, hm, ha⟩ := hs.asked r hold
      exact ⟨entry, List.mem_append_left _ hm, ha⟩
    · exact ⟨_, List.mem_append_right _ (List.mem_singleton_self _), hnew⟩

theorem Stays.over {calls : List Call} (hs : site.Stays n calls) : site.Over n := hs 0

theorem Stays.next {call : Call} {rest : List Call} (hs : site.Stays n (call :: rest)) :
    (site.next call).Stays n rest := fun k => hs (k + 1)

theorem Sound.after {calls : List Call} (hs : site.Sound n t h) (hstays : site.Stays n calls) :
    ∃ t' h', (site.after calls).Sound n t' h' := by
  induction calls generalizing site t h with
  | nil => exact ⟨t, h, hs⟩
  | cons call rest ih =>
    obtain ⟨t', h', hnext⟩ := hs.next hstays.over hstays.next.over
    exact ih hnext hstays.next

theorem log_after (calls : List Call) : site.log <+: (site.after calls).log := by
  induction calls generalizing site with
  | nil => exact List.prefix_refl _
  | cons call rest ih =>
    have hnext : site.log <+: (site.next call).log := List.prefix_append _ _
    exact hnext.trans ih

theorem mem_log_after {calls : List Call} {entry : Call × Reply} (he : entry ∈ (site.after calls).log) :
    entry ∈ site.log ∨ entry.1 ∈ calls := by
  induction calls generalizing site with
  | nil => exact .inl he
  | cons call rest ih =>
    rcases ih he with hm | hm
    · rcases List.mem_append.mp hm with hm | hm
      · exact .inl hm
      · obtain rfl := List.mem_singleton.mp hm
        exact .inr List.mem_cons_self
    · exact .inr (List.mem_cons_of_mem _ hm)

end Runs
end Deployment
end ValidatorSigner
