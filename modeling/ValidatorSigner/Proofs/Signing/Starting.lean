import ValidatorSigner.Daemon
import ValidatorSigner.Proofs.Protection.Opening

/-! # What a start keeps

A start connects to the database, may install it, connects again, and then makes at most two requests. What
each of these steps keeps, the start keeps, however it ends. An installed database is changed quietly, whether
or not the signer comes up over it, and the numbers that a new signer has at hand are on record.
-/
namespace ValidatorSigner
open Keys Protection Signing Store Telemetry

structure StartInvariant (settings : Settings) (P : Host → Prop) (Q : Context → Host → Prop) : Prop where
  counted {host : Host} (metrics : Metrics) : P host → P { host with metrics }
  connect {host : Host} : P host → P (host.connect settings.protectionParameters.database).2
  opened {host : Host} {connection : Connection} {database : Database} : P host →
    (host.connect settings.protectionParameters.database).1 = .ok (connection, database) →
      Q ⟨connection, .ofParameters settings.protectionParameters⟩
        (host.connect settings.protectionParameters.database).2
  install {host : Host} {context : Context} : Q context host → P (host.install context.connection).2
  genesis {host : Host} {context : Context} : Q context host →
    Q (host.run context Request.genesisExists).2.1 (host.run context Request.genesisExists).2.2
  register {host : Host} {context : Context} (keys : List PublicKey) : Q context host →
    Q (host.run context (Request.registerValidators keys)).2.1
      (host.run context (Request.registerValidators keys)).2.2
  host {host : Host} {context : Context} : Q context host → P host

namespace StartInvariant
variable {settings : Settings} {P : Host → Prop} {Q : Context → Host → Prop} {host : Host}

theorem create (inv : StartInvariant settings P Q) (hp : P host) :
    P (Context.create settings.protectionParameters host).2 ∧
      ∀ context, (Context.create settings.protectionParameters host).1 = .ok context →
        Q context (Context.create settings.protectionParameters host).2 := by
  unfold Context.create
  split
  · exact ⟨hp, fun _ ho => by cases ho⟩
  · have hconnect := inv.connect hp
    split
    · rename_i hc
      rw [hc] at hconnect
      exact ⟨hconnect, fun _ ho => by cases ho⟩
    · rename_i connection database host' hc
      have hopened := inv.opened hp (congrArg Prod.fst hc)
      rw [hc] at hconnect hopened
      split
      · exact ⟨hconnect, fun _ ho => by cases ho⟩
      · dsimp only
        split
        · refine ⟨hconnect, fun _ ho => ?_⟩
          cases ho
          exact hopened
        · have hgenesis := inv.genesis hopened
          split
          · rename_i hrun
            rw [hrun] at hgenesis
            exact ⟨inv.host hgenesis, fun _ ho => by cases ho⟩
          · rename_i hrun
            rw [hrun] at hgenesis
            refine ⟨inv.host hgenesis, fun _ ho => ?_⟩
            cases ho
            exact hgenesis
          · rename_i hrun
            rw [hrun] at hgenesis
            exact ⟨inv.host hgenesis, fun _ ho => by cases ho⟩

theorem installed (inv : StartInvariant settings P Q) (hp : P host) : P (Daemon.install settings host).2 := by
  unfold Daemon.install
  split
  · exact hp
  · have hconnect := inv.connect hp
    split
    · rename_i hc
      rw [hc] at hconnect
      exact hconnect
    · rename_i connection database host' hc
      have hopened := inv.opened hp (congrArg Prod.fst hc)
      rw [hc] at hopened
      have hinstall := inv.install hopened
      split
      · rename_i hi
        rw [hi] at hinstall
        exact hinstall
      · rename_i hi
        rw [hi] at hinstall
        exact hinstall

theorem protect (inv : StartInvariant settings P Q) (hp : P host) (ring : KeyRing) :
    P (Daemon.protect settings ring host).2 ∧
      ∀ context, (Daemon.protect settings ring host).1 = .ok context →
        Q context (Daemon.protect settings ring host).2 := by
  obtain ⟨hcreate, hnew⟩ := inv.create hp
  unfold Daemon.protect
  split
  · rename_i hc
    rw [hc] at hcreate
    exact ⟨hcreate, fun _ ho => by cases ho⟩
  · rename_i context host' hc
    rw [hc] at hnew
    have hregister := inv.register ring.keys (hnew context rfl)
    split
    · rename_i hrun
      rw [hrun] at hregister
      exact ⟨inv.host hregister, fun _ ho => by cases ho⟩
    · rename_i hrun
      rw [hrun] at hregister
      refine ⟨inv.host hregister, fun _ ho => ?_⟩
      cases ho
      exact hregister

/-- However a start ends, it keeps what its steps keep. -/
theorem startWith (inv : StartInvariant settings P Q) (hp : P host) (ring : KeyRing) :
    P (Daemon.startWith settings ring host).2 ∧
      ∀ daemon, (Daemon.startWith settings ring host).1 = .ok daemon → ∀ context, daemon.context? = some context →
        Q context (Daemon.startWith settings ring host).2 := by
  unfold Daemon.startWith
  have hcounted := inv.counted { host.metrics with loadedKeys := ring.size } hp
  dsimp only
  split
  · refine ⟨hcounted, fun _ ho _ hc => ?_⟩
    cases ho
    cases hc
  · have hinstall := inv.installed hcounted
    split
    · rename_i hi
      rw [hi] at hinstall
      exact ⟨hinstall, fun _ ho => by cases ho⟩
    · rename_i host' hi
      rw [hi] at hinstall
      obtain ⟨hprotect, hnew⟩ := inv.protect hinstall ring
      split
      · rename_i hc
        rw [hc] at hprotect
        exact ⟨hprotect, fun _ ho => by cases ho⟩
      · rename_i context host' hc
        rw [hc] at hprotect hnew
        refine ⟨hprotect, fun _ ho _ hcontext => ?_⟩
        cases ho
        cases hcontext
        exact hnew context rfl

end StartInvariant

section Tables
variable {n : Nat} {t : Tables} {h : History} {host : Host}

/-- The steps of a start change an installed database quietly. -/
theorem quiet_startInvariant (g : Guards t h) (settings : Settings) :
    StartInvariant settings (fun host => ∃ t', Quietly t t' ∧ host.disk.Holds n t')
      (fun context host => ∃ t', Quietly t t' ∧ host.disk.Holds n t' ∧
        (context.connection.number? = some n → context.service.Coherent t')) where
  counted _ hp := hp
  connect := by
    rintro host ⟨t', hq, hh⟩
    exact ⟨t', hq, connect_holds hh _⟩
  opened := by
    rintro host connection database ⟨t', hq, hh⟩ -
    exact ⟨t', hq, connect_holds hh _, fun _ _ _ hk => by cases hk⟩
  install := by
    rintro host context ⟨t', hq, hh, -⟩
    obtain ⟨t'', hq', hh'⟩ := install_holds hh context.connection
    exact ⟨t'', hq.trans hq', hh'⟩
  genesis := by
    rintro host context ⟨t', hq, hh, hc⟩
    have hl (e : Engine) (hm : e.database.missing = []) (ht : e.tables = t') :
        e.Leads (· = t') (Request.genesisExists e).2 := by
      obtain ⟨metrics, he⟩ := genesisExists_effect hm (ht ▸ (g.quietly hq).wellFormed)
      exact leads_of_tables ht id he
    obtain ⟨_, rfl, hh', hc'⟩ := @run_leads _ host context n t' hh _ (· = t') rfl hl
    exact ⟨_, hq, hh', fun hn => hc' hn hc⟩
  register := by
    rintro host context keys ⟨t', hq, hh, hc⟩
    obtain ⟨t'', hq', hh', hc'⟩ := @run_leads _ host context n t' hh (Request.registerValidators keys)
      (Quietly t') .refl fun e hm ht => ht ▸ registerValidators_leads hm keys
    exact ⟨t'', hq.trans hq', hh', fun hn => hc' hn hc⟩
  host := by
    rintro host context ⟨t', hq, hh, -⟩
    exact ⟨t', hq, hh⟩

theorem startWith_leads (hh : host.disk.Holds n t) (g : Guards t h) (settings : Settings) (ring : KeyRing) :
    ∃ t', Quietly t t' ∧ (Daemon.startWith settings ring host).2.disk.Holds n t' ∧
      ∀ daemon, (Daemon.startWith settings ring host).1 = .ok daemon → ∀ context, daemon.context? = some context →
        context.connection.number? = some n → context.service.Coherent t' := by
  obtain ⟨⟨t', hq, hh'⟩, hnew⟩ := (quiet_startInvariant g settings).startWith ⟨t, .refl, hh⟩ ring
  refine ⟨t', hq, hh', fun daemon ho context hcontext hn => ?_⟩
  obtain ⟨t'', -, hh'', hc⟩ := hnew daemon ho context hcontext
  rw [hh'.unique hh'']
  exact hc hn

end Tables
end ValidatorSigner
