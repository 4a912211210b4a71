import ValidatorSigner.Store.Connection

/-! # A database among others

Opening a file, whether it is there or has to be made, leaves the tables of every database as they are. A
connection changes the tables of its own database only.
-/
namespace ValidatorSigner.Store
namespace Disk

/-- The database of a number is installed and has these tables. -/
def Holds (disk : Disk) (n : Nat) (t : Tables) : Prop :=
  ∃ db, disk.databases[n]? = some db ∧ db.missing = [] ∧ db.tables = t

variable {disk disk' : Disk} {n : Nat} {t : Tables} {address : Address} {connection connection' : Connection}

theorem Holds.lt (hh : disk.Holds n t) : n < disk.databases.length := by
  obtain ⟨db, hn, -⟩ := hh
  exact (List.getElem?_eq_some_iff.mp hn).1

theorem Holds.unique {t' : Tables} (hh : disk.Holds n t) (hh' : disk.Holds n t') : t = t' := by
  obtain ⟨db, hn, -, rfl⟩ := hh
  obtain ⟨db', hn', -, rfl⟩ := hh'
  rw [Option.some.inj (hn.symm.trans hn')]

theorem Holds.of_databases (hh : disk.Holds n t) (h : disk'.databases = disk.databases) : disk'.Holds n t := by
  obtain ⟨db, hn, hrest⟩ := hh
  exact ⟨db, h ▸ hn, hrest⟩

theorem Holds.put (hh : disk.Holds n t) (path : FilePath) (entry : Entry) : (disk.put path entry).Holds n t :=
  hh.of_databases rfl

theorem Holds.addDatabase (hh : disk.Holds n t) (path : FilePath) (database : Database) :
    (disk.addDatabase path database).Holds n t := by
  have hlt := hh.lt
  obtain ⟨db, hn, hrest⟩ := hh
  exact ⟨db, (List.getElem?_append_left hlt).trans hn, hrest⟩

/-- What is set in another place, or changes no table, leaves the tables as they are. -/
theorem Holds.set (hh : disk.Holds n t) {m : Nat} {database : Database}
    (h : m = n → database.missing = [] ∧ database.tables = t) :
    ({ disk with databases := disk.databases.set m database } : Disk).Holds n t := by
  have hlt := hh.lt
  obtain ⟨db, hn, hrest⟩ := hh
  by_cases hm : m = n
  · subst hm
    exact ⟨database, List.getElem?_set_self hlt, h rfl⟩
  · exact ⟨db, (List.getElem?_set_ne hm).trans hn, hrest⟩

theorem Holds.reach (hh : disk.Holds n t) {file? : Option FilePath}
    (hr : disk.reach address = .ok (file?, disk')) : disk'.Holds n t := by
  unfold Disk.reach at hr
  split at hr
  · cases hr
    exact hh
  · split at hr
    · cases hr
    · split at hr
      · split at hr
        · cases hr
        · cases hr
      · cases hr
        exact hh
      · split at hr
        · cases hr
          exact hh.put _ _
        · cases hr
      · cases hr

theorem Holds.begin (hh : disk.Holds n t) {path : FilePath}
    (hb : disk.begin address path = .ok (connection, disk')) : disk'.Holds n t := by
  unfold Disk.begin at hb
  split at hb
  · cases hb
    exact hh
  · split at hb
    · cases hb
      exact hh
    · split at hb
      · cases hb
      · split at hb
        · cases hb
        · cases hb
          exact hh.addDatabase _ _

theorem Holds.resume (hh : disk.Holds n t) {m : Nat} {database : Database} (hm : disk.databases[m]? = some database)
    (hr : disk.resume address m database = .ok (connection, disk')) : disk'.Holds n t := by
  unfold Disk.resume at hr
  dsimp only at hr
  split at hr
  · cases hr
    exact hh
  · split at hr
    · split at hr
      · cases hr
      · cases hr
        exact hh
    · split at hr
      · cases hr
        exact hh
      · split at hr
        · cases hr
        · cases hr
          refine hh.set fun he => ?_
          obtain ⟨db, hn, hmissing, htables⟩ := hh
          rw [he, hn] at hm
          cases hm
          exact ⟨hmissing, htables⟩

theorem Holds.prepare (hh : disk.Holds n t) {file? : Option FilePath}
    (hp : disk.prepare address file? = .ok (connection, disk')) : disk'.Holds n t := by
  unfold Disk.prepare at hp
  split at hp
  · cases hp
    exact hh
  · split at hp
    · exact hh.begin hp
    · split at hp
      · rename_i hm
        exact hh.resume hm hp
      · cases hp
    · cases hp
    · cases hp

theorem Holds.read (hh : disk.Holds n t) (hn : connection.number? = some n) :
    (disk.read connection).missing = [] ∧ (disk.read connection).tables = t := by
  obtain ⟨db, hdb, hrest⟩ := hh
  simpa only [Disk.read, hn, Option.bind_some, hdb, Option.getD_some] using hrest

/-- A connection keeps what is written to its database. -/
theorem Holds.write (hh : disk.Holds n t) (hn : connection.number? = some n) {database : Database}
    (hm : database.missing = []) :
    (disk.write connection database).1.Holds n database.tables ∧
      (disk.write connection database).2 = connection := by
  simp only [Disk.write, hn, and_true]
  exact ⟨_, List.getElem?_set_self hh.lt, hm, rfl⟩

/-- A connection to another database does not get at this one. -/
theorem Holds.write_elsewhere (hh : disk.Holds n t) (hn : connection.number? ≠ some n) (database : Database) :
    (disk.write connection database).1.Holds n t ∧
      (disk.write connection database).2.number? ≠ some n := by
  unfold Disk.write
  dsimp only
  split
  · rename_i m _ hm
    exact ⟨hh.set fun he => absurd (he ▸ hm) hn, hn⟩
  · split
    · exact ⟨hh, hn⟩
    · -- A database that is only made now comes after all that are there.
      exact ⟨hh.addDatabase _ _, fun he => absurd (Option.some.inj he) (Nat.ne_of_gt hh.lt)⟩
  · exact ⟨hh, hn⟩

end Disk
end ValidatorSigner.Store
