import ValidatorSigner.Store.Connection

/-! # The way to a database

As long as no path changes, an address that leads to a database leads to the same one again. Opening it and
writing to it changes no path.
-/
namespace ValidatorSigner.Store

theorem lookup_filter_ne {κ β : Type} [BEq κ] [LawfulBEq κ] [DecidableEq κ] {pairs : List (κ × β)} {key other : κ}
    (h : other ≠ key) : (pairs.filter (·.1 ≠ key)).lookup other = pairs.lookup other := by
  induction pairs with
  | nil => rfl
  | cons pair rest ih =>
    obtain ⟨k, b⟩ := pair
    by_cases hk : k = key
    · subst hk
      simp only [ne_eq, not_true_eq_false, decide_false, Bool.false_eq_true, not_false_eq_true,
        List.filter_cons_of_neg, List.lookup_cons, beq_eq_false_iff_ne.mpr h]
      exact ih
    · rw [List.filter_cons_of_pos (by simpa using hk), List.lookup_cons, List.lookup_cons, ih]

namespace Disk

structure SamePaths (disk disk' : Disk) : Prop where
  entries : disk'.entries = disk.entries
  workingDirectory : disk'.workingDirectory = disk.workingDirectory

def LeadsTo (disk : Disk) (address : Address) (n : Nat) : Prop :=
  address.isVolatile = false ∧ ∃ path,
    disk.databasePath (Text.lenientText address.path) = .ok path ∧ disk.at? path = some (.database n)

variable {disk disk' disk'' : Disk} {address : Address} {connection : Connection} {n : Nat}

theorem SamePaths.refl (disk : Disk) : disk.SamePaths disk := ⟨rfl, rfl⟩

theorem SamePaths.trans (h₁ : disk.SamePaths disk') (h₂ : disk'.SamePaths disk'') : disk.SamePaths disk'' :=
  ⟨h₂.entries.trans h₁.entries, h₂.workingDirectory.trans h₁.workingDirectory⟩

theorem SamePaths.at?_eq (hs : disk.SamePaths disk') (path : FilePath) : disk'.at? path = disk.at? path := by
  simp only [Disk.at?, hs.entries, hs.workingDirectory]

theorem SamePaths.databasePath_eq (hs : disk.SamePaths disk') (text : String) :
    disk'.databasePath text = disk.databasePath text := by
  have hsimplify : disk'.simplify = disk.simplify := by
    funext path part
    simp only [Disk.simplify, hs.at?_eq]
  simp only [Disk.databasePath, Disk.start, hsimplify, hs.workingDirectory]

theorem LeadsTo.same (hl : disk.LeadsTo address n) (hs : disk.SamePaths disk') : disk'.LeadsTo address n := by
  obtain ⟨hvolatile, path, hpath, hat⟩ := hl
  exact ⟨hvolatile, path, (hs.databasePath_eq _).trans hpath, (hs.at?_eq path).trans hat⟩

/-- A file that is there is reached, and nothing is created. -/
theorem LeadsTo.reach (hl : disk.LeadsTo address n) :
    ∃ path, disk.reach address = .ok (some path, disk) ∧ disk.at? path = some (.database n) := by
  obtain ⟨hvolatile, path, hpath, hat⟩ := hl
  refine ⟨path, ?_, hat⟩
  simp only [Disk.reach, hvolatile, Bool.false_eq_true, if_false, hpath, hat]

theorem resume_same {database : Database} (hr : disk.resume address n database = .ok (connection, disk')) :
    disk.SamePaths disk' ∧ connection.number? = some n := by
  unfold Disk.resume at hr
  dsimp only at hr
  split at hr
  · cases hr
    exact ⟨.refl _, rfl⟩
  · split at hr
    · split at hr
      · cases hr
      · cases hr
        exact ⟨.refl _, rfl⟩
    · split at hr
      · cases hr
        exact ⟨.refl _, rfl⟩
      · split at hr
        · cases hr
        · cases hr
          exact ⟨⟨rfl, rfl⟩, rfl⟩

theorem prepare_same {path : FilePath} (hat : disk.at? path = some (.database n))
    (hp : disk.prepare address (some path) = .ok (connection, disk')) :
    disk.SamePaths disk' ∧ connection.number? = some n := by
  simp only [Disk.prepare, hat] at hp
  split at hp
  · exact resume_same hp
  · cases hp

theorem write_same (hn : connection.number? = some n) (database : Database) :
    disk.SamePaths (disk.write connection database).1 ∧ (disk.write connection database).2 = connection := by
  simp only [Disk.write, hn, and_true]
  exact ⟨rfl, rfl⟩

def replace (disk : Disk) (n : Nat) (database : Database) : Disk :=
  { disk with databases := disk.databases.set n database }

section Replacing
variable {database database' : Database}

theorem samePaths_replace (disk : Disk) (n : Nat) (database : Database) : disk.SamePaths (disk.replace n database) :=
  ⟨rfl, rfl⟩

theorem read_of_number (hn : connection.number? = some n) (hd : disk.databases[n]? = some database) :
    disk.read connection = { database with readOnly := connection.readOnly } := by
  simp only [Disk.read, hn, Option.bind_some, hd, Option.getD_some]

theorem getElem?_replace (hd : disk.databases[n]? = some database) :
    (disk.replace n database').databases[n]? = some database' :=
  List.getElem?_set_self (List.getElem?_eq_some_iff.mp hd).1

theorem replace_self (hd : disk.databases[n]? = some database) : disk.replace n database = disk := by
  obtain ⟨hlt, rfl⟩ := List.getElem?_eq_some_iff.mp hd
  simp only [replace, List.set_getElem_self]

/-- Once a database was opened, it is opened again in the same way, and left as it is. -/
theorem resume_settles (hd : disk.databases[n]? = some database)
    (hr : disk.resume address n database = .ok (connection, disk')) :
    ∃ readOnly writeAhead, connection = { number? := some n, readOnly } ∧
      disk' = disk.replace n { database with writeAhead } ∧
      ∀ (other : Disk) (later : Database), later.writeAhead = writeAhead →
        other.resume address n later = .ok (connection, other) := by
  unfold Disk.resume at hr
  dsimp only at hr
  split at hr
  · rename_i himmutable
    cases hr
    refine ⟨_, database.writeAhead, rfl, (replace_self hd).symm, fun other later _ => ?_⟩
    simp only [Disk.resume, himmutable, if_true]
  · rename_i himmutable
    split at hr
    · rename_i hunshared
      split at hr
      · cases hr
      · rename_i hahead
        cases hr
        refine ⟨_, database.writeAhead, rfl, (replace_self hd).symm, fun other later hlater => ?_⟩
        simp only [Disk.resume, himmutable, hunshared, hlater, hahead, if_true, Bool.false_eq_true, if_false]
    · rename_i hunshared
      split at hr
      · rename_i hahead
        cases hr
        refine ⟨_, database.writeAhead, rfl, (replace_self hd).symm, fun other later hlater => ?_⟩
        simp only [Disk.resume, himmutable, hunshared, hlater, hahead, if_true, Bool.false_eq_true, if_false]
      · split at hr
        · cases hr
        · cases hr
          refine ⟨_, true, rfl, rfl, fun other later hlater => ?_⟩
          simp only [Disk.resume, himmutable, hunshared, hlater, if_true, Bool.false_eq_true, if_false]

end Replacing

end Disk
end ValidatorSigner.Store
