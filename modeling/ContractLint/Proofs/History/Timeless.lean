import Mathlib.Data.List.Perm.Basic
import Mathlib.Tactic.Use
import ContractLint.Proofs.History.Alone
import ContractLint.Proofs.Tree.Map

/-!
# Histories without times

The times at which analyses are stored decide the order in which they are listed, and nothing else.
While no file is open in two stores, it makes no difference either what stores hold of files.  So
two sessions which differ in times and locks only go on alike: their answers and the rows of their
databases are the same but for times.
-/

namespace ContractLint

/-! ### Leaving out times -/

/-- A row without its time. -/
def Row.timeless (row : Row) : Row :=
  { row with createdAt := "" }

/-- A record without its time. -/
def Record.timeless (record : Record) : Record :=
  { record with createdAt := "" }

/-- A table whose rows have no times. -/
def Table.timeless (table : Table) : Table :=
  { table with rows := table.rows.map Row.timeless }

/-- A database whose rows have no times. -/
def Database.timeless : Database → Database
  | .empty => .empty
  | .table held => .table held.timeless
  | .foreign => .foreign

/-- A store whose rows have no times, outside of any transaction. -/
def Store.timeless (store : Store) : Store where
  database := store.database.timeless
  isOpen := store.isOpen

/-- The content of a file, where the rows of a database have no times. -/
def FileContent.timeless : FileContent → FileContent
  | .octets values => .octets values
  | .database table => .database table.timeless

/-- The connection of a store to its place, where a database in a file is left to the file. -/
def Connection.filed (place : Option Place) (store : Store) : Connection :=
  match place with
  | none => ⟨none, store⟩
  | some place => ⟨some place, { store with database := .empty }⟩

/-- A connection to a database whose rows have no times. -/
def Connection.timeless (connection : Connection) : Connection :=
  .filed connection.place connection.store.timeless

@[simp]
theorem Connection.place_timeless (connection : Connection) :
  connection.timeless.place = connection.place
  := by
  rw [timeless, filed.eq_def]
  cases connection.place <;> rfl

@[simp]
theorem Connection.isOpen_timeless (connection : Connection) :
  connection.timeless.store.isOpen = connection.store.isOpen
  := by
  rw [timeless, filed.eq_def]
  cases connection.place <;> rfl

/-- A clock that shows nothing and was not read. -/
def Clock.blank : Clock where
  shows _ := ""

/-- A session without times: those of all rows are left out, its clock is blank, and stores are
outside of any transaction. -/
def Session.timeless (session : Session) : Session where
  tree := session.tree.map FileContent.timeless
  current := session.current
  connections := session.connections.map Connection.timeless
  clock := .blank
  directoryLimit := session.directoryLimit

/-! ### Records -/

namespace Table

/-- A row is read in the same way without its time. -/
theorem recordOf_timeless (row : Row) :
  recordOf row.timeless = (recordOf row).map Record.timeless
  := by
  rw [recordOf, recordOf, Row.timeless]
  cases findingsOf row.results <;> rfl

theorem recordsOf_timeless (rows : List Row) :
  recordsOf (rows.map Row.timeless) = (recordsOf rows).map (List.map Record.timeless)
  := by
  induction rows with
  | nil => rfl
  | cons row rows ih =>
    rw [List.map_cons, recordsOf, recordsOf, recordOf_timeless, ih]
    cases recordOf row with
    | error error => rfl
    | ok record => cases recordsOf rows <;> rfl

/-- Rows are read one by one. -/
theorem recordsOf_eq_ok_iff {rows : List Row} {records : List Record} :
  recordsOf rows = .ok records
    ↔ List.Forall₂ (fun row record => recordOf row = .ok record) rows records
  := by
  induction rows generalizing records with
  | nil =>
    rw [recordsOf, List.forall₂_nil_left_iff, Except.ok.injEq]
    exact eq_comm
  | cons row rows ih =>
    rw [recordsOf, List.forall₂_cons_left_iff]
    constructor
    · intro h
      cases hrow : recordOf row with
      | error error =>
        rw [hrow] at h
        cases h
      | ok record =>
        cases hrest : recordsOf rows with
        | error error =>
          rw [hrow, hrest] at h
          cases h
        | ok rest =>
          rw [hrow, hrest] at h
          cases h
          use record, rest, rfl, ih.mp hrest
    · rintro ⟨record, rest, hrecord, hrest, rfl⟩
      rw [hrecord, ih.mpr hrest]
      rfl

/-- Rows can be read in any order. -/
theorem recordsOf_perm {rows others : List Row} (h : rows.Perm others) {records : List Record}
    (hrecords : recordsOf rows = .ok records) :
  ∃ found, recordsOf others = .ok found ∧ found.Perm records
  := by
  obtain ⟨found, hfound, hperm⟩ := List.perm_comp_forall₂ h.symm (recordsOf_eq_ok_iff.mp hrecords)
  use found, recordsOf_eq_ok_iff.mpr hfound

/-- The rows of a user are the same but for times, in an order that depends on the times. -/
theorem rowsOf_timeless_perm (table : Table) (user : String) :
  List.Perm (table.timeless.rowsOf user) ((table.rowsOf user).map Row.timeless)
  := by
  have hsame : table.timeless.rows.filter (·.user == user)
      = (table.rows.filter (·.user == user)).map Row.timeless := by
    rw [timeless, List.filter_map]
    rfl
  rw [rowsOf, rowsOf, hsame]
  apply (List.mergeSort_perm _ _).trans
  apply List.Perm.map
  symm
  apply List.mergeSort_perm

/-- A history can be read with the times or without, and the records are the same but for times and
their order. -/
theorem history_timeless (table : Table) (user : String) :
  (∃ records others, table.history user = .ok records ∧ table.timeless.history user = .ok others
    ∧ others.Perm (records.map Record.timeless))
  ∨ ∃ error other, table.history user = .error error ∧ table.timeless.history user = .error other
  := by
  have hperm := rowsOf_timeless_perm table user
  have hmap := recordsOf_timeless (table.rowsOf user)
  rw [history, history]
  cases hrecords : recordsOf (table.rowsOf user) with
  | ok records =>
    left
    rw [hrecords] at hmap
    obtain ⟨others, hothers, hsame⟩ := recordsOf_perm hperm.symm hmap
    use records, others
  | error error =>
    right
    rw [hrecords] at hmap
    cases hothers : recordsOf (table.timeless.rowsOf user) with
    | ok others =>
      obtain ⟨found, hfound, -⟩ := recordsOf_perm hperm hothers
      rw [hmap] at hfound
      cases hfound
    | error other => use error, other

/-- A row is inserted in the same way without its time. -/
theorem insert_timeless (table : Table) (source results user createdAt : String) :
  (table.insert source results user createdAt).timeless
    = table.timeless.insert source results user ""
  := by
  rw [insert, insert, timeless, List.map_append]
  rfl

end Table

/-! ### Stores -/

namespace Store

variable (store : Store)

/-- A store has the same table without times. -/
theorem table?_timeless :
  store.timeless.table? = store.table?.map Table.timeless
  := by
  rw [table?, table?, timeless]
  split
  · cases store.database <;> rfl
  · rfl

theorem madeTable_timeless :
  store.timeless.madeTable = store.madeTable.map Table.timeless
  := by
  rw [madeTable, madeTable, table?_timeless]
  cases store.table? with
  | ok table => rfl
  | error fault => cases fault <;> rfl

/-- Saving to a store without times is saving to the store and leaving out the times. -/
theorem savedTable_timeless (source : SourceText) (results : String) (user : RawText)
    (createdAt : String) :
  store.timeless.savedTable source results user ""
    = (store.savedTable source results user createdAt).map Table.timeless
  := by
  rw [savedTable, savedTable, table?_timeless]
  cases store.table? with
  | error fault => rfl
  | ok table =>
    simp only [Except.map]
    cases source.bind user with
    | error error => rfl
    | ok stored =>
      cases user.encode with
      | error message => rfl
      | ok name =>
        cases stored with
        | none => rfl
        | some stored => simp only [Table.insert_timeless]

theorem databaseWith_timeless (result : Except StoreError Table) :
  store.timeless.databaseWith (result.map Table.timeless) = (store.databaseWith result).timeless
  := by cases result <;> rfl

/-- An action makes the same database without times, but for times. -/
theorem databaseAfter_timeless (now : String) (action : StoreAction) :
  store.timeless.databaseAfter "" action = (store.databaseAfter now action).timeless
  := by
  cases action with
  | initialise => rw [databaseAfter, madeTable_timeless, databaseWith_timeless, databaseAfter]
  | save source findings user =>
    rw [databaseAfter, savedTable_timeless _ _ _ _ now, databaseWith_timeless, databaseAfter]
  | _ => rfl

end Store

/-! ### Files -/

namespace FileTree

/-- The database at a place is the same without times. -/
theorem databaseAt_timeless (tree : FileTree) (place : Option Place) :
  databaseAt (tree.map FileContent.timeless) place = (tree.databaseAt place).timeless
  := by
  cases place with
  | none => rfl
  | some place =>
    rw [databaseAt, databaseAt, Tree.get?_map]
    cases tree.get? place with
    | none => rfl
    | some found =>
      cases found with
      | file content =>
        cases content with
        | octets values => cases values <;> rfl
        | database table => rfl
      | link target => rfl
      | directory entries => rfl

/-- Writing a database and then leaving out times is leaving them out first. -/
theorem writeDatabase_timeless (tree : FileTree) (place : Option Place) (database : Database) :
  writeDatabase (tree.map FileContent.timeless) place database.timeless
    = (tree.writeDatabase place database).map FileContent.timeless
  := by
  cases place with
  | none => rfl
  | some place =>
    cases database with
    | table held =>
      symm
      apply Tree.map_put
    | _ => rfl

/-- Directories are made in the same way without times. -/
theorem makeParent_timeless (tree : FileTree) (current : Place) (limit : Nat) (database : String) :
  makeParent (tree.map FileContent.timeless) current limit database
    = (tree.makeParent current limit database).map (Tree.map FileContent.timeless)
  := by
  rw [makeParent, makeParent]
  split
  · rfl
  · simp only [Tree.missingNames_map, Tree.makeDirectories_map]
    split
    · rfl
    · split
      · rfl
      · cases Tree.makeDirectories tree
            (Tree.startOf current (toString (Path.ofString database).parent))
            (Tree.namesOf (toString (Path.ofString database).parent)) <;> rfl

/-- A database is opened in the same way without times. -/
theorem openDatabase_timeless (tree : FileTree) (current : Place) (database : String) :
  openDatabase (tree.map FileContent.timeless) current database
    = (tree.openDatabase current database).map fun (opened, place) =>
        (opened.map FileContent.timeless, place)
  := by
  rw [openDatabase, openDatabase]
  split
  · rfl
  · split
    · rfl
    · simp only [Tree.canonical_map, Tree.get?_map, Tree.hasDirectory_map]
      split
      · rfl
      · cases tree.get? (Tree.canonical tree current database).place with
        | none =>
          simp only [Option.map_none]
          split
          · rw [Except.map, Tree.map_put]
            rfl
          · rfl
        | some found => cases found <;> rfl

end FileTree

/-! ### Answers -/

/-- Two answers are the same but for times: lists of records may differ in times, and in the order
that the times decide; where not all records can be read, either may be met first. -/
inductive SessionAnswer.SameButTimes : SessionAnswer → SessionAnswer → Prop
  | same (answer : SessionAnswer) : SameButTimes answer answer
  | listed {records others : List Record}
    (h : List.Perm (records.map Record.timeless) (others.map Record.timeless)) :
    SameButTimes (.listed records) (.listed others)
  | unreadable (error other : RecordError) :
    SameButTimes (.failed (.store (.unreadable error))) (.failed (.store (.unreadable other)))

namespace SessionAnswer.SameButTimes

variable {a b c : SessionAnswer}

theorem symm (h : SameButTimes a b) : SameButTimes b a := by
  cases h with
  | same => apply same
  | listed h => apply listed h.symm
  | unreadable => apply unreadable

theorem trans (hab : SameButTimes a b) (hbc : SameButTimes b c) : SameButTimes a c := by
  cases hab with
  | same => apply hbc
  | listed hab =>
    cases hbc with
    | same => apply listed hab
    | listed hbc => apply listed (hab.trans hbc)
  | unreadable =>
    cases hbc with
    | same => apply unreadable
    | unreadable => apply unreadable

end SessionAnswer.SameButTimes

/-- An action answers the same without times, but for times. -/
theorem Store.answerTo_timeless (store : Store) (now : String) (action : StoreAction) :
  (store.timeless.answerTo "" action).SameButTimes (store.answerTo now action)
  := by
  cases action with
  | initialise =>
    rw [answerTo, answerTo, madeTable_timeless, ofResult_map]
    apply SessionAnswer.SameButTimes.same
  | close => apply SessionAnswer.SameButTimes.same
  | useOnce => apply SessionAnswer.SameButTimes.same
  | save source findings user =>
    rw [answerTo, answerTo, savedTable_timeless _ _ _ _ now, ofResult_map]
    apply SessionAnswer.SameButTimes.same
  | list user =>
    rw [answerTo, answerTo, records, records, table?_timeless]
    cases store.table? with
    | error fault => apply SessionAnswer.SameButTimes.same
    | ok table =>
      cases user.asName.encode with
      | error message => apply SessionAnswer.SameButTimes.same
      | ok name =>
        simp only [Except.map]
        obtain ⟨records, others, hrecords, hothers, hperm⟩ | ⟨error, other, herror, hother⟩ :=
          table.history_timeless name
        · rw [hrecords, hothers]
          apply SessionAnswer.SameButTimes.listed
          have hmap := hperm.map Record.timeless
          rw [List.map_map] at hmap
          apply hmap
        · rw [herror, hother]
          apply SessionAnswer.SameButTimes.unreadable

/-! ### Steps -/

namespace Session

/-- The store of a connection without times. -/
theorem storeOf_timeless (session : Session) (connection : Connection) :
  session.timeless.storeOf connection.timeless = (session.storeOf connection).timeless
  := by
  obtain ⟨place, store⟩ := connection
  cases place with
  | none => rfl
  | some place =>
    simp only [storeOf, Connection.timeless, Connection.filed, timeless, Store.timeless,
      FileTree.databaseAt_timeless]

/-- A session has the same stores without times. -/
theorem withStore_timeless (session : Session) (number : Nat) (connection : Connection)
    (store : Store) :
  (session.withStore number connection store).timeless = { session.timeless with
    tree := session.timeless.tree.writeDatabase connection.place store.timeless.database
    connections :=
      session.timeless.connections.set number (.filed connection.place store.timeless) }
  := by
  simp only [withStore, timeless, Store.timeless, FileTree.writeDatabase_timeless, List.map_set,
    Connection.timeless]

/-- A store is opened in the same way without times. -/
theorem openStore_timeless (session : Session) (database : String) :
  session.timeless.openStore database
    = ((session.openStore database).1.timeless, (session.openStore database).2)
  := by
  simp only [openStore, timeless, FileTree.makeParent_timeless]
  cases session.tree.makeParent session.current session.directoryLimit database with
  | error fault => rfl
  | ok parents =>
    simp only [Except.map, FileTree.openDatabase_timeless]
    cases parents.openDatabase session.current database with
    | error fault => rfl
    | ok opened =>
      obtain ⟨tree, place⟩ := opened
      cases place <;>
        simp [Connection.timeless, Connection.filed, Store.timeless, Database.timeless]

/-! ### Runs -/

/-- The answers to some steps. -/
def answers (session : Session) : List SessionStep → List SessionAnswer
  | [] => []
  | step :: steps => (session.step step).2 :: (session.step step).1.answers steps

variable {a b : Session}

/-- Whether a file is open in two stores does not depend on times. -/
theorem isSolo_timeless : a.timeless.IsSolo ↔ a.IsSolo := by
  rw [IsSolo, IsSolo, timeless, List.pairwise_map]
  simp only [Connection.place_timeless, Connection.isOpen_timeless]

/-- Whether no file is open in two stores does not depend on times. -/
theorem IsSolo.of_timeless_eq (hsolo : a.IsSolo) (h : a.timeless = b.timeless) : b.IsSolo := by
  rw [← isSolo_timeless, ← h, isSolo_timeless]
  apply hsolo

/-- One action takes sessions that differ in times only to such sessions, with the same answer. -/
theorem act_of_timeless_eq (h : a.timeless = b.timeless) (hsolo : a.IsSolo) (ha : a.IsSettled)
    (hb : b.IsSettled) {number : Nat} {connection other : Connection}
    (hconnection : a.connections[number]? = some connection)
    (hother : b.connections[number]? = some other)
    (hsame : connection.timeless = other.timeless) (action : StoreAction) :
  (a.act number connection action).1.timeless = (b.act number other action).1.timeless
  ∧ (a.act number connection action).2.SameButTimes (b.act number other action).2
  := by
  obtain ⟨left, hleft, hleftDatabase, hleftOpen, -⟩ := act_solo hsolo ha hconnection action
  obtain ⟨right, hright, hrightDatabase, hrightOpen, -⟩ :=
    act_solo (hsolo.of_timeless_eq h) hb hother action
  have hstores : (a.storeOf connection).timeless = (b.storeOf other).timeless := by
    rw [← storeOf_timeless, ← storeOf_timeless, h, hsame]
  have hplace : connection.place = other.place := by
    rw [← connection.place_timeless, ← other.place_timeless, hsame]
  rw [hleft, hright]
  constructor
  · have hopen : connection.store.isOpen = other.store.isOpen := by
      rw [← connection.isOpen_timeless, ← other.isOpen_timeless, hsame]
    have hstore : left.timeless = right.timeless := by
      rw [Store.timeless, Store.timeless, hleftDatabase, hrightDatabase, hleftOpen, hrightOpen,
        hopen, ← Store.databaseAfter_timeless, hstores, ← Store.databaseAfter_timeless]
    rw [withStore_timeless, withStore_timeless, hplace, hstore]
    exact congrArg (fun session : Session => { session with
      tree := session.tree.writeDatabase other.place right.timeless.database
      connections := session.connections.set number (.filed other.place right.timeless) }) h
  · have hanswer := (a.storeOf connection).answerTo_timeless a.clock.now.1 action
    rw [hstores] at hanswer
    apply hanswer.symm.trans
    apply Store.answerTo_timeless

/-- One step takes sessions that differ in times only to such sessions, with the same answer. -/
theorem step_of_timeless_eq (h : a.timeless = b.timeless) (hsolo : a.IsSolo) (ha : a.IsSettled)
    (hb : b.IsSettled) (step : SessionStep) :
  (a.step step).1.timeless = (b.step step).1.timeless
  ∧ (a.step step).2.SameButTimes (b.step step).2
  := by
  cases step with
  | openStore database =>
    have hopened := a.openStore_timeless database
    rw [h, b.openStore_timeless, Prod.mk.injEq] at hopened
    simp only [Session.step, hopened.1, hopened.2]
    exact ⟨trivial, .same _⟩
  | use number action =>
    have hconnections : (a.connections[number]?).map Connection.timeless
        = (b.connections[number]?).map Connection.timeless := by
      rw [← List.getElem?_map, ← List.getElem?_map]
      exact congrArg (fun session => session.connections[number]?) h
    rw [Session.step, Session.step]
    cases hconnection : a.connections[number]? with
    | none =>
      rw [hconnection, Option.map_none, eq_comm, Option.map_eq_none_iff] at hconnections
      rw [hconnections]
      exact ⟨h, .same _⟩
    | some connection =>
      rw [hconnection, Option.map_some, eq_comm, Option.map_eq_some_iff] at hconnections
      obtain ⟨other, hother, hsame⟩ := hconnections
      rw [hother]
      apply act_of_timeless_eq h hsolo ha hb hconnection hother hsame.symm

/-- Sessions that differ in times only go on alike. -/
theorem run_of_timeless_eq (h : a.timeless = b.timeless) (ha : a.IsSettled) (hb : b.IsSettled)
    {steps : List SessionStep} (hsolo : a.RunsSolo steps) :
  (a.run steps).timeless = (b.run steps).timeless
  ∧ List.Forall₂ SessionAnswer.SameButTimes (a.answers steps) (b.answers steps)
  := by
  induction steps generalizing a b with
  | nil => exact ⟨h, .nil⟩
  | cons step steps ih =>
    obtain ⟨hsolo, hlater⟩ := hsolo
    obtain ⟨hstep, hanswer⟩ := step_of_timeless_eq h hsolo ha hb step
    obtain ⟨hrun, hanswers⟩ :=
      ih hstep (ha.step hsolo step) (hb.step (hsolo.of_timeless_eq h) step) hlater
    exact ⟨hrun, .cons hanswer hanswers⟩

end Session

end ContractLint
