import ValidatorSigner.Proofs.Store.Paths

/-! # What files hold

A file holds a database. One that is not there, and one without content, holds a database without any table, and
that is what becomes of it when it is opened. Opening changes nothing else that any file holds.
-/
namespace ValidatorSigner.Store

def Database.content (db : Database) : Tables × List Table := (db.tables, db.missing)

theorem Database.content_eq_iff {db db' : Database} :
    db'.content = db.content ↔ db'.tables = db.tables ∧ db'.missing = db.missing := by
  simp only [content, Prod.mk.injEq]

def Address.begins (address : Address) (path : FilePath) : Bool :=
  address.immutable || address.fileSystem = .unshared ||
    (address.access ≠ .readOnly && (Text.utf8Bytes (path.getLastD "")).length ≤ Disk.longestDatabaseName)

def Address.resumes (address : Address) (db : Database) : Bool :=
  address.immutable ||
    if address.fileSystem = .unshared then !db.writeAhead else db.writeAhead || address.access ≠ .readOnly

namespace Disk

/-- What the file at a path holds, or what lies there instead. -/
def held (disk : Disk) (path : FilePath) : Entry ⊕ (Tables × List Table) :=
  match disk.at? path with
  | none => .inr Database.blank.content
  | some (.file []) => .inr Database.blank.content
  | some (.database n) => .inr (disk.databases[n]?.getD .blank).content
  | some entry => .inl entry

/-- The database that an address opens, as it was left; none if it does not open any. -/
def offered? (disk : Disk) (address : Address) : Option Database :=
  if address.isVolatile then some .blank
  else
    match disk.databasePath (Text.lenientText address.path) with
    | .error _ => none
    | .ok path =>
      match disk.at? path with
      | some (.database n) => disk.databases[n]?.filter address.resumes
      | some (.file []) => if address.begins path then some .blank else none
      | some _ => none
      | none =>
        if disk.at? path.dropLast = some .directory ∧ address.access = .create ∧ address.begins path then some .blank
        else none

structure Keeps (disk disk' : Disk) : Prop where
  databases : ∀ (n : Nat) (db : Database), disk.databases[n]? = some db →
    ∃ db' : Database, disk'.databases[n]? = some db' ∧ db'.content = db.content
  files : ∀ path, disk'.held path = disk.held path

variable {disk disk' disk'' : Disk} {address : Address} {connection : Connection} {path : FilePath}
  {database : Database} {n : Nat}

theorem Keeps.refl (disk : Disk) : disk.Keeps disk := ⟨fun _ db hd => ⟨db, hd, rfl⟩, fun _ => rfl⟩

theorem Keeps.trans (h₁ : disk.Keeps disk') (h₂ : disk'.Keeps disk'') : disk.Keeps disk'' := by
  refine ⟨fun n db hd => ?_, fun path => (h₂.files path).trans (h₁.files path)⟩
  obtain ⟨db', hd', hc'⟩ := h₁.databases n db hd
  obtain ⟨db'', hd'', hc''⟩ := h₂.databases n db' hd'
  exact ⟨db'', hd'', hc''.trans hc'⟩

/-- What is offered is on the disk, or has no table. -/
theorem mem_of_offered (ho : disk.offered? address = some database) :
    database = .blank ∨ database ∈ disk.databases := by
  unfold offered? at ho
  split at ho
  · exact .inl (Option.some.inj ho).symm
  · split at ho
    · cases ho
    · split at ho
      · exact .inr (List.mem_of_getElem? (Option.filter_eq_some_iff.mp ho).1)
      · split at ho
        · exact .inl (Option.some.inj ho).symm
        · cases ho
      · cases ho
      · split at ho
        · exact .inl (Option.some.inj ho).symm
        · cases ho

theorem at?_put_ne {other : FilePath} (h : other ≠ path) (entry : Entry) :
    (disk.put path entry).at? other = disk.at? other := by
  simp only [Disk.at?, Disk.put, List.lookup_cons, beq_eq_false_iff_ne.mpr h, lookup_filter_ne h]

theorem at?_put_self (h : disk.at? path ≠ some .directory) (entry : Entry) :
    (disk.put path entry).at? path = some entry := by
  have hplace : ¬path.isPrefixOf disk.workingDirectory = true := fun hprefix => h (if_pos hprefix)
  unfold Disk.at?
  exact (if_neg hplace).trans List.lookup_cons_self

theorem keeps_put (h : disk.at? path = none) : disk.Keeps (disk.put path (.file [])) := by
  refine ⟨fun _ db hd => ⟨db, hd, rfl⟩, fun other => ?_⟩
  by_cases he : other = path
  · subst he
    have hnone : disk.at? other ≠ some .directory := by
      rw [h]
      exact nofun
    simp only [held, h, at?_put_self hnone]
  · simp only [held, at?_put_ne he]
    rfl

section Views
variable {γ : Type}

/-- A database that is added looks as it did before it was there. -/
theorem getD_append (view : Database → γ) (databases : List Database) (database : Database)
    (hv : view database = view .blank) (n : Nat) :
    view ((databases ++ [database])[n]?.getD .blank) = view (databases[n]?.getD .blank) := by
  rcases Nat.lt_trichotomy n databases.length with hlt | rfl | hgt
  · rw [List.getElem?_append_left hlt]
  · simp only [List.getElem?_concat_length, List.getElem?_eq_none (Nat.le_refl _), Option.getD_some, Option.getD_none,
      hv]
  · have hlong : (databases ++ [database]).length ≤ n := by
      rw [List.length_append]
      exact hgt
    rw [List.getElem?_eq_none hlong, List.getElem?_eq_none (Nat.le_of_lt hgt)]

theorem getD_replace (view : Database → γ) (hd : disk.databases[n]? = some database) (database' : Database)
    (hv : view database' = view database) (m : Nat) :
    view ((disk.replace n database').databases[m]?.getD .blank) = view (disk.databases[m]?.getD .blank) := by
  by_cases hm : n = m
  · subst hm
    rw [getElem?_replace hd, hd]
    exact hv
  · exact congrArg (fun found => view (found.getD .blank)) (List.getElem?_set_ne hm)

/-- What a connection does not change in its database is changed nowhere. -/
theorem view_write (view : Tables → γ) (disk : Disk) (connection : Connection)
    (hv : view database.tables = view (disk.read connection).tables) (m : Nat) :
    view ((disk.write connection database).1.databases[m]?.getD .blank).tables =
      view (disk.databases[m]?.getD .blank).tables := by
  unfold write
  cases hn : connection.number? with
  | some n =>
    cases hd : disk.databases[n]? with
    | some found =>
      rw [read_of_number hn hd] at hv
      exact getD_replace (view ·.tables) hd { database with readOnly := false } hv m
    | none =>
      dsimp only
      rw [List.set_eq_of_length_le (List.getElem?_eq_none_iff.mp hd)]
  | none =>
    simp only [read, hn, Option.bind_none, Option.getD_none] at hv
    cases connection.emptyFile? with
    | none => rfl
    | some path =>
      dsimp only
      split
      · rfl
      · exact getD_append (view ·.tables) disk.databases { database with readOnly := false } hv m

end Views

theorem keeps_addDatabase (hat : disk.at? path = some (.file [])) (hc : database.content = Database.blank.content) :
    disk.Keeps (disk.addDatabase path database) := by
  have hne : ({ disk with databases := disk.databases ++ [database] } : Disk).at? path ≠ some .directory := by
    rw [show ({ disk with databases := disk.databases ++ [database] } : Disk).at? path = disk.at? path from rfl, hat]
    exact nofun
  refine ⟨fun m db hd => ⟨db, ?_, rfl⟩, fun other => ?_⟩
  · exact (List.getElem?_append_left (List.getElem?_eq_some_iff.mp hd).1).trans hd
  · by_cases he : other = path
    · subst he
      have hnew : (disk.addDatabase other database).at? other = some (.database disk.databases.length) :=
        at?_put_self hne _
      have hlast : (disk.addDatabase other database).databases[disk.databases.length]? = some database :=
        List.getElem?_concat_length
      simp only [held, hat, hnew, hlast, Option.getD_some, hc]
    · have hsame : (disk.addDatabase path database).at? other = disk.at? other := at?_put_ne he _
      simp only [held, hsame]
      split
      · rfl
      · rfl
      · exact congrArg Sum.inr (getD_append Database.content _ _ hc _)
      · rfl

theorem keeps_replace (hd : disk.databases[n]? = some database) {database' : Database}
    (hc : database'.content = database.content) : disk.Keeps (disk.replace n database') := by
  have hget := getD_replace Database.content hd database' hc
  refine ⟨fun m db hdb => ?_, fun path => ?_⟩
  · have hlt : m < (disk.replace n database').databases.length := by
      simp only [replace, List.length_set]
      exact (List.getElem?_eq_some_iff.mp hdb).1
    have hm := hget m
    rw [hdb, List.getElem?_eq_getElem hlt] at hm
    exact ⟨_, List.getElem?_eq_getElem hlt, hm⟩
  · simp only [held, (samePaths_replace disk n database').at?_eq, hget]

/-- What was read may be written back. -/
theorem keeps_write_read (disk : Disk) (connection : Connection) :
    disk.Keeps (disk.write connection (disk.read connection)).1 ∧
      (disk.write connection (disk.read connection)).2 = connection := by
  cases hn : connection.number? with
  | some n =>
    refine ⟨?_, (write_same hn _).2⟩
    simp only [write, hn]
    cases hd : disk.databases[n]? with
    | some db =>
      rw [read_of_number hn hd]
      exact keeps_replace hd rfl
    | none =>
      rw [List.set_eq_of_length_le (List.getElem?_eq_none_iff.mp hd)]
      exact .refl disk
  | none =>
    have hblank : ({ disk.read connection with readOnly := false } : Database) = .blank := by
      simp only [read, hn, Option.bind_none, Option.getD_none]
      rfl
    cases hempty : connection.emptyFile? with
    | some path =>
      simp only [write, hn, hempty, hblank, if_true]
      exact ⟨.refl disk, trivial⟩
    | none =>
      simp only [write, hn, hempty]
      exact ⟨.refl disk, trivial⟩

structure Serves (disk : Disk) (connection : Connection) (content : Tables × List Table) : Prop where
  numbered : ∀ n, connection.number? = some n → ∃ db, disk.databases[n]? = some db ∧ db.content = content
  unnumbered : connection.number? = none → content = Database.blank.content

theorem Serves.read {content : Tables × List Table} (hs : disk.Serves connection content) :
    (disk.read connection).content = content := by
  cases hn : connection.number? with
  | some n =>
    obtain ⟨db, hd, hc⟩ := hs.numbered n hn
    rw [read_of_number hn hd]
    exact hc
  | none =>
    rw [hs.unnumbered hn]
    simp only [Disk.read, hn, Option.bind_none, Option.getD_none]
    rfl

theorem Keeps.serves {content : Tables × List Table} (hk : disk.Keeps disk') (hs : disk.Serves connection content) :
    disk'.Serves connection content := by
  refine ⟨fun n hn => ?_, hs.unnumbered⟩
  obtain ⟨db, hd, hc⟩ := hs.numbered n hn
  obtain ⟨db', hd', hc'⟩ := hk.databases n db hd
  exact ⟨db', hd', hc'.trans hc⟩

theorem serves_blank (hn : connection.number? = none) : disk.Serves connection Database.blank.content := by
  refine ⟨fun n he => ?_, fun _ => rfl⟩
  rw [hn] at he
  cases he

theorem serves_number (hn : connection.number? = some n) (hd : disk.databases[n]? = some database)
    {content : Tables × List Table} (hc : database.content = content) : disk.Serves connection content := by
  refine ⟨fun m he => ?_, fun he => ?_⟩
  · rw [hn] at he
    cases he
    exact ⟨database, hd, hc⟩
  · rw [hn] at he
    cases he

theorem begin_cases (hat : disk.at? path = some (.file [])) :
    (address.begins path = false ∧ ∃ fault, disk.begin address path = .error fault) ∨
    (address.begins path = true ∧ ∃ connection disk', disk.begin address path = .ok (connection, disk') ∧
      disk.Keeps disk' ∧ disk'.Serves connection Database.blank.content) := by
  unfold Disk.begin Address.begins
  by_cases himmutable : address.immutable = true
  · rw [if_pos himmutable, himmutable]
    exact .inr ⟨rfl, _, _, rfl, .refl disk, serves_blank rfl⟩
  · rw [if_neg himmutable, Bool.eq_false_iff.mpr himmutable]
    by_cases hunshared : address.fileSystem = .unshared
    · rw [if_pos hunshared]
      exact .inr ⟨by simp [hunshared], _, _, rfl, .refl disk, serves_blank rfl⟩
    · rw [if_neg hunshared]
      by_cases hread : address.access = .readOnly
      · rw [if_pos hread]
        exact .inl ⟨by simp [hunshared, hread], _, rfl⟩
      · rw [if_neg hread]
        split
        · rename_i hlong
          exact .inl ⟨by simp [-List.getLastD_eq_getLast?, hunshared, hread, hlong], _, rfl⟩
        · rename_i hshort
          refine .inr ⟨?_, _, _, rfl, keeps_addDatabase hat rfl, ?_⟩
          · simp [-List.getLastD_eq_getLast?, hunshared, hread, Nat.not_lt.mp hshort]
          have hlast : (disk.addDatabase path { Database.blank with writeAhead := true }).databases[
              disk.databases.length]? = some { Database.blank with writeAhead := true } :=
            List.getElem?_concat_length
          exact serves_number rfl hlast rfl

theorem resume_cases (hd : disk.databases[n]? = some database) :
    (address.resumes database = false ∧ ∃ fault, disk.resume address n database = .error fault) ∨
    (address.resumes database = true ∧ ∃ connection disk', disk.resume address n database = .ok (connection, disk') ∧
      disk.Keeps disk' ∧ disk'.Serves connection database.content) := by
  unfold Disk.resume Address.resumes
  dsimp only
  by_cases himmutable : address.immutable = true
  · simp only [himmutable, if_true]
    exact .inr ⟨rfl, _, _, rfl, .refl disk, serves_number rfl hd rfl⟩
  · simp only [Bool.eq_false_iff.mpr himmutable, Bool.false_eq_true, if_false]
    by_cases hunshared : address.fileSystem = .unshared
    · simp only [hunshared, if_true]
      cases hahead : database.writeAhead with
      | true => exact .inl ⟨rfl, _, rfl⟩
      | false => exact .inr ⟨rfl, _, _, rfl, .refl disk, serves_number rfl hd rfl⟩
    · simp only [hunshared, if_false]
      cases hahead : database.writeAhead with
      | true => exact .inr ⟨rfl, _, _, rfl, .refl disk, serves_number rfl hd rfl⟩
      | false =>
        by_cases hread : address.access = .readOnly
        · simp only [hread, decide_true, Bool.or_true, if_true]
          exact .inl ⟨rfl, _, rfl⟩
        · simp only [hread, decide_false, Bool.or_false, Bool.false_eq_true, if_false]
          exact .inr ⟨by simp [hread], _, _, rfl, keeps_replace hd rfl, serves_number rfl (getElem?_replace hd) rfl⟩

/-- An address is reached and opened exactly if it offers a database, and the connection is over that one. -/
theorem open_cases (disk : Disk) (address : Address) :
    (∃ fault, disk.reach address = .error fault ∧ disk.offered? address = none) ∨
    ∃ file? reached, disk.reach address = .ok (file?, reached) ∧ disk.Keeps reached ∧
      ((∃ fault, reached.prepare address file? = .error fault ∧ disk.offered? address = none) ∨
        ∃ connection disk' db, reached.prepare address file? = .ok (connection, disk') ∧
          disk.offered? address = some db ∧ disk.Keeps disk' ∧ disk'.Serves connection db.content) := by
  unfold Disk.reach Disk.offered?
  by_cases hvolatile : address.isVolatile = true
  · simp only [hvolatile, if_true]
    exact .inr ⟨_, _, rfl, .refl disk, .inr ⟨_, _, _, rfl, rfl, .refl disk, serves_blank rfl⟩⟩
  · simp only [if_neg hvolatile]
    cases hpath : disk.databasePath (Text.lenientText address.path) with
    | error fault => exact .inl ⟨fault, rfl, rfl⟩
    | ok path =>
      dsimp only
      -- What is reached is an empty file, which may have been made only now, or a database.
      have hempty {reached : Disk} (hat : reached.at? path = some (.file [])) (hk : disk.Keeps reached) :
          (∃ fault, reached.prepare address (some path) = .error fault ∧
            (if address.begins path then some Database.blank else none) = none) ∨
          ∃ connection disk' db, reached.prepare address (some path) = .ok (connection, disk') ∧
            (if address.begins path then some Database.blank else none) = some db ∧ disk.Keeps disk' ∧
              disk'.Serves connection db.content := by
        simp only [Disk.prepare, hat]
        rcases begin_cases hat with ⟨hb, fault, hf⟩ | ⟨hb, connection, disk', ho, hk', hs⟩
        · exact .inl ⟨fault, hf, by rw [hb]; rfl⟩
        · exact .inr ⟨connection, disk', _, ho, by rw [hb]; rfl, hk.trans hk', hs⟩
      cases hat : disk.at? path with
      | some entry =>
        cases entry with
        | directory =>
          dsimp only
          split
          · exact .inl ⟨_, rfl, rfl⟩
          · exact .inl ⟨_, rfl, rfl⟩
        | file content =>
          refine .inr ⟨_, _, rfl, .refl disk, ?_⟩
          cases content with
          | nil => exact hempty hat (.refl disk)
          | cons byte rest =>
            exact .inl ⟨Address.refusal 26 "file is not a database", by simp only [Disk.prepare, hat], rfl⟩
        | database n =>
          refine .inr ⟨_, _, rfl, .refl disk, ?_⟩
          simp only [Disk.prepare, hat]
          cases hd : disk.databases[n]? with
          | none => exact .inl ⟨_, rfl, rfl⟩
          | some database =>
            dsimp only
            rcases resume_cases hd with ⟨hr, fault, hf⟩ | ⟨hr, connection, disk', ho, hk, hs⟩
            · exact .inl ⟨fault, hf, Option.filter_some_neg hr⟩
            · exact .inr ⟨connection, disk', database, ho, Option.filter_some_pos hr, hk, hs⟩
      | none =>
        by_cases hmade : disk.at? path.dropLast = some .directory ∧ address.access = .create
        · have hput : (disk.put path (.file [])).at? path = some (.file []) := at?_put_self (by simp [hat]) _
          simp only [hmade.1, hmade.2, if_true, true_and]
          exact .inr ⟨_, _, rfl, keeps_put hat, hempty hput (keeps_put hat)⟩
        · have hnone : ¬(disk.at? path.dropLast = some .directory ∧ address.access = .create ∧
              address.begins path = true) := fun h => hmade ⟨h.1, h.2.1⟩
          simp only [if_neg hnone]
          cases hparent : disk.at? path.dropLast with
          | none => exact .inl ⟨_, rfl, trivial⟩
          | some entry =>
            cases entry with
            | directory =>
              dsimp only
              rw [if_neg fun h => hmade ⟨hparent, h⟩]
              exact .inl ⟨_, rfl, trivial⟩
            | _ => exact .inl ⟨_, rfl, trivial⟩

end Disk
end ValidatorSigner.Store
