import ValidatorSigner.Protection.Context
import ValidatorSigner.Proofs.Protection.Effect
import ValidatorSigner.Proofs.Store.Holding

/-! # Contexts over a database

What a context does to the database of a number is what its engine does, if the context is connected to that
database, and nothing otherwise. To connect and to install changes an installed database quietly.
-/
namespace ValidatorSigner.Protection
open Store Telemetry

def Host.engine (host : Host) (context : Context) : Engine where
  database := host.disk.read context.connection
  locked := host.locked
  metrics := host.metrics
  service := context.service

section Acting
variable {α : Type} {host : Host} {context : Context} {n : Nat} {t : Tables}

theorem engine_installed (hh : host.disk.Holds n t) (hn : context.connection.number? = some n) :
    (host.engine context).database.missing = [] ∧ (host.engine context).tables = t := hh.read hn

theorem act_here (hh : host.disk.Holds n t) (hn : context.connection.number? = some n) {action : StateM Engine α}
    {R : Tables → Prop} (hl : (host.engine context).Leads R (action (host.engine context)).2) :
    ∃ t', t' = (action (host.engine context)).2.tables ∧ R t' ∧
      (host.act context action).1 = (action (host.engine context)).1 ∧
      (host.act context action).2.2.disk.Holds n t' ∧
      (host.act context action).2.1.connection = context.connection ∧
      (context.service.Coherent t → (host.act context action).2.1.service.Coherent t') := by
  obtain ⟨hm, ht⟩ := engine_installed hh hn
  obtain ⟨hheld, hconnection⟩ := hh.write hn (hl.installed hm)
  refine ⟨_, rfl, hl.change, rfl, hheld, hconnection, fun hc => hl.coherent ?_⟩
  rw [ht]
  exact hc

/-- A context over another database does nothing to this one. -/
theorem act_elsewhere (hh : host.disk.Holds n t) (hn : context.connection.number? ≠ some n)
    (action : StateM Engine α) :
    (host.act context action).2.2.disk.Holds n t ∧
      (host.act context action).2.1.connection.number? ≠ some n := by
  obtain ⟨hheld, hother⟩ := hh.write_elsewhere hn (action (host.engine context)).2.database
  exact ⟨hheld, hother⟩

/-- What a request does to a database, whichever its context is over. -/
theorem run_leads (hh : host.disk.Holds n t) {request : Request α} {R : Tables → Prop} (hr : R t)
    (hl : ∀ e : Engine, e.database.missing = [] → e.tables = t → e.Leads R (request e).2) :
    ∃ t', R t' ∧ (host.run context request).2.2.disk.Holds n t' ∧
      ((host.run context request).2.1.connection.number? = some n →
        (context.connection.number? = some n → context.service.Coherent t) →
          (host.run context request).2.1.service.Coherent t') := by
  by_cases hn : context.connection.number? = some n
  · obtain ⟨hm, ht⟩ := engine_installed hh hn
    obtain ⟨t', -, hchange, -, hheld, -, hcoherent⟩ := act_here hh hn (hl _ hm ht)
    exact ⟨t', hchange, hheld, fun _ hc => hcoherent (hc hn)⟩
  · obtain ⟨hheld, hother⟩ := act_elsewhere hh hn request.run
    exact ⟨t, hr, hheld, fun hn' => absurd hn' hother⟩

end Acting

section Opening
variable {host : Host} {n : Nat} {t : Tables} {h : History}

theorem connectTo_holds (hh : host.disk.Holds n t) (busyTimeout : Duration) (address : Address) :
    (host.connectTo busyTimeout address).2.disk.Holds n t := by
  unfold Host.connectTo
  cases hr : host.disk.reach address with
  | error fault => exact hh
  | ok reached =>
    obtain ⟨file?, disk⟩ := reached
    have hheld := hh.reach hr
    dsimp only
    split
    · exact hheld
    · cases hp : disk.prepare address file? with
      | error fault => exact hheld
      | ok prepared => exact hheld.prepare hp

theorem connect_holds (hh : host.disk.Holds n t) (p : DatabaseParameters) :
    (host.connect p).2.disk.Holds n t := by
  unfold Host.connect
  split
  · exact hh
  · split
    · exact hh
    · split
      · exact hh
      · rename_i address _
        have hheld := connectTo_holds hh p.busyTimeout address
        split
        · rename_i hc
          rw [hc] at hheld
          exact hheld
        · rename_i hc
          rw [hc] at hheld
          exact hheld

/-- An installation over an installed database only stamps the version. -/
theorem install_holds (hh : host.disk.Holds n t) (connection : Connection) :
    ∃ t', Quietly t t' ∧ (host.install connection).2.disk.Holds n t' := by
  unfold Host.install
  dsimp only
  split
  · exact ⟨t, .refl, hh⟩
  · split
    · exact ⟨t, .refl, hh⟩
    · by_cases hn : connection.number? = some n
      · obtain ⟨-, ht⟩ := hh.read hn
        have hheld := (@hh.write _ _ _ _ hn (host.disk.read connection).install rfl).1
        refine ⟨_, .single ?_, hheld⟩
        rw [Database.install, ht]
        exact .stamp Database.expectedVersion
      · exact ⟨t, .refl, (hh.write_elsewhere hn _).1⟩

end Opening
end ValidatorSigner.Protection
