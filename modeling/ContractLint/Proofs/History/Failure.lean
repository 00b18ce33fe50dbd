import Mathlib.Tactic.Use
import ContractLint.Proofs.Finding.Plain
import ContractLint.Proofs.History.Listing
import ContractLint.Proofs.History.Locking
import ContractLint.Proofs.History.Timeless
import ContractLint.Proofs.Text.Raw

/-!
# Failed steps of a session

A step that makes the table, stores an analysis or lists a history leaves all databases as they are
when it fails, whatever other stores hold of the files.  It may leave a transaction open, though,
that stands in the way of other stores on the same file.  As long as no file is open in two stores,
what follows is the same as if the step had not been taken, but for times.

The databases of a session hold nothing but findings in their wire form, whatever the steps.  An
orderly step on texts that have an encoding can then fail for one reason only, which is that the
database refuses it.
-/

namespace ContractLint

/-! ### Databases -/

namespace Session

/-- The database of the store with a number. -/
def database? (session : Session) (number : Nat) : Option Database :=
  (session.connections[number]?).map fun connection => (session.storeOf connection).database

/-- What the store with a number sees, with the rows that wait to be committed. -/
def visible? (session : Session) (number : Nat) : Option Database :=
  (session.connections[number]?).map fun connection => (session.storeOf connection).visible

section
variable {session : Session} {number : Nat} {connection : Connection} {store : Store}

/-- A database that is the same is written to its file without a change. -/
theorem tree_withStore (hdatabase : store.database = (session.storeOf connection).database) :
  (session.withStore number connection store).tree = session.tree
  := by
  rw [withStore, hdatabase, storeOf]
  cases connection.place with
  | none => rfl
  | some place => apply FileTree.writeDatabase_databaseAt

/-- A store with its file is the connection without times. -/
theorem filed_storeOf (session : Session) (connection : Connection) :
  Connection.filed connection.place (session.storeOf connection).timeless = connection.timeless
  := by
  obtain ⟨place, store⟩ := connection
  cases place <;> rfl

/-- A store that has the same database and is as open as before makes no difference but for times
and locks. -/
theorem timeless_withStore (hconnection : session.connections[number]? = some connection)
    (hdatabase : store.database = (session.storeOf connection).database)
    (hisOpen : store.isOpen = (session.storeOf connection).isOpen) :
  (session.withStore number connection store).timeless = session.timeless
  := by
  have hstore : store.timeless = (session.storeOf connection).timeless := by
    rw [Store.timeless, hdatabase, hisOpen, Store.timeless]
  have hconnections : (session.withStore number connection store).connections.map
      Connection.timeless = session.connections.map Connection.timeless := by
    have hsame : Connection.timeless { connection with store } = connection.timeless := by
      rw [← session.filed_storeOf connection, ← hstore]
      rfl
    obtain ⟨hnumber, rfl⟩ := List.getElem?_eq_some_iff.mp hconnection
    rw [withStore, List.map_set, hsame, ← List.map_set, List.set_getElem_self]
  rw [timeless, hconnections, tree_withStore hdatabase]
  rfl

/-- A store that keeps its database leaves all databases as they are. -/
theorem database?_withStore (hconnection : session.connections[number]? = some connection)
    (hdatabase : store.database = (session.storeOf connection).database) (index : Nat) :
  (session.withStore number connection store).database? index = session.database? index
  := by
  -- what a connection finds depends on the files only
  have hstoreOf : ∀ other, (session.withStore number connection store).storeOf other
      = session.storeOf other := by
    intro other
    rw [storeOf, storeOf, tree_withStore hdatabase]
  have hself : (session.storeOf { connection with store }).database
      = (session.storeOf connection).database := by
    obtain ⟨place, old⟩ := connection
    cases place with
    | none => apply hdatabase
    | some place => rfl
  rw [database?, database?]
  simp only [hstoreOf]
  by_cases hindex : index = number
  · obtain ⟨hnumber, -⟩ := List.getElem?_eq_some_iff.mp hconnection
    rw [hindex, withStore, List.getElem?_set_self hnumber, hconnection, Option.map_some,
      Option.map_some, hself]
  · rw [withStore, List.getElem?_set_ne (Ne.symm hindex)]

/-- A step that fails changes no file and no database; but for times and locks nothing changes. -/
theorem IsWellLocked.failed_step (h : session.IsWellLocked) {action : StoreAction}
    {error : SessionError} (hfailed : (session.step (.use number action)).2 = .failed error) :
  (session.step (.use number action)).1.tree = session.tree
  ∧ (∀ index, (session.step (.use number action)).1.database? index = session.database? index)
  ∧ (session.step (.use number action)).1.timeless = session.timeless
  := by
  rw [Session.step] at hfailed ⊢
  cases hconnection : session.connections[number]? with
  | none => exact ⟨rfl, fun _ => rfl, rfl⟩
  | some connection =>
    rw [hconnection] at hfailed
    have hrivals : (session.storeOf connection).lock.writes = true →
        (session.rivalsOf number connection).writing = false
        ∧ (session.rivalsOf number connection).waiting = false := by
      rw [lock_storeOf]
      apply h.rivalsOf hconnection
    obtain ⟨hdatabase, hisOpen⟩ :=
      Store.database_of_failed (h.isGuarded_storeOf hconnection) hrivals hfailed
    exact ⟨tree_withStore hdatabase, database?_withStore hconnection hdatabase,
      timeless_withStore hconnection hdatabase hisOpen⟩

end

end Session

/-! ### Stored findings -/

/-- The rows of a table hold findings in their wire form. -/
def Table.HoldsFindings (table : Table) : Prop :=
  ∀ row ∈ table.rows, ∃ findings : List Finding,
    row.results = resultsText (findings.map Finding.toJson)

/-- A stored analysis adds findings that can be read. -/
theorem Table.HoldsFindings.insert {table : Table} (h : table.HoldsFindings) (source : String)
    (findings : List Finding) (user createdAt : String) :
  (table.insert source (resultsText (findings.map Finding.toJson)) user createdAt).HoldsFindings
  := by
  intro row hrow
  rw [Table.insert, List.mem_append, List.mem_singleton] at hrow
  obtain hrow | rfl := hrow
  · apply h row hrow
  · use findings

/-- A database holds findings in their wire form, if it holds a table. -/
def Database.HoldsFindings (database : Database) : Prop :=
  ∀ table, database = .table table → table.HoldsFindings

namespace Store

/-- The database of a store and the rows that wait to be committed hold findings. -/
structure HoldsFindings (store : Store) : Prop where
  /-- The database holds findings. -/
  database : store.database.HoldsFindings
  /-- The rows that wait to be committed hold findings. -/
  uncommitted : ∀ table, store.uncommitted? = some table → table.HoldsFindings

section
variable {rivals : Rivals} {store after : Store}

theorem HoldsFindings.visible (h : store.HoldsFindings) : store.visible.HoldsFindings := by
  rw [visible_eq]
  cases huncommitted : store.uncommitted? with
  | none => apply h.database
  | some table =>
    rintro _ ⟨⟩
    apply h.uncommitted table huncommitted

/-- A store that is kept holds findings as before. -/
theorem HoldsFindings.keeps (h : store.HoldsFindings) (hkeeps : Keeps rivals store after) :
  after.HoldsFindings
  := by
  constructor
  · rw [hkeeps.database]
    apply h.database
  · rw [hkeeps.uncommitted]
    apply h.uncommitted

theorem holdsFindings_of_transaction (hdatabase : after.database.HoldsFindings)
    (htransaction : after.transaction = none) :
  after.HoldsFindings
  := by
  refine ⟨hdatabase, ?_⟩
  intro table huncommitted
  rw [uncommitted?, htransaction] at huncommitted
  cases huncommitted

theorem HoldsFindings.close (h : store.HoldsFindings) : store.close.HoldsFindings :=
  ⟨h.database, by rintro _ ⟨⟩⟩

/-- Every action leaves findings in a store. -/
theorem HoldsFindings.run (h : store.HoldsFindings) (rivals : Rivals) (now : String)
    (action : StoreAction) :
  (action.run rivals now store).1.HoldsFindings
  := by
  cases action with
  | initialise =>
    have hcases := initialising_initialise rivals store
    rw [StoreAction.run]
    generalize store.initialise rivals = result at hcases ⊢
    cases hcases with
    | refused hkeeps => apply h.keeps hkeeps
    | unmade hdatabase _ htransaction =>
      apply holdsFindings_of_transaction _ htransaction
      rw [hdatabase]
      apply h.visible
    | made _ hdatabase _ htransaction =>
      apply holdsFindings_of_transaction _ htransaction
      rw [hdatabase]
      split
      · rintro _ ⟨⟩ row ⟨⟩
      · apply h.visible
  | close => apply h.close
  | useOnce => apply h.close
  | save source findings user =>
    have hcases := saving_save rivals store (.ofJson source)
      (resultsText (findings.map Finding.toJson)) user.asName now
    rw [StoreAction.run]
    generalize store.save rivals _ _ _ _ = result at hcases ⊢
    cases hcases with
    | refused hkeeps => apply h.keeps hkeeps
    | waiting hvisible _ _ hdatabase _ huncommitted =>
      constructor
      · rw [hdatabase]
        apply h.database
      · rw [huncommitted]
        rintro _ ⟨⟩
        apply Table.HoldsFindings.insert (h.visible _ hvisible)
    | committed hvisible _ _ hdatabase _ htransaction =>
      apply holdsFindings_of_transaction _ htransaction
      rw [hdatabase]
      rintro _ ⟨⟩
      apply Table.HoldsFindings.insert (h.visible _ hvisible)
  | list user => apply h.keeps (keeps_history rivals store user.asName)

end

end Store

/-- The databases in all files and in all stores hold findings in their wire form. -/
structure Session.HoldsFindings (session : Session) : Prop where
  /-- The databases in files hold findings. -/
  files : ∀ place, (session.tree.databaseAt place).HoldsFindings
  /-- The stores hold findings. -/
  stores : ∀ connection ∈ session.connections, connection.store.HoldsFindings

/-- Writing findings keeps all files holding findings. -/
theorem FileTree.holdsFindings_writeDatabase {tree : FileTree}
    (htree : ∀ place, (tree.databaseAt place).HoldsFindings) {database : Database}
    (hdatabase : database.HoldsFindings) (place there : Option Place) :
  ((tree.writeDatabase place database).databaseAt there).HoldsFindings
  := by
  cases place with
  | none => apply htree
  | some place =>
    cases database with
    | empty => apply htree
    | foreign => apply htree
    | table table =>
      cases there with
      | none => apply htree none
      | some there =>
        intro held hheld
        have hfile := get?_of_databaseAt_eq_table hheld
        obtain hnew | hold := Tree.get?_of_get?_put_file hfile
        · cases hnew
          apply hdatabase _ rfl
        · apply htree (some there) held
          apply databaseAt_of_get? hold

namespace Session.HoldsFindings

variable {session : Session}

theorem storeOf (h : session.HoldsFindings) {connection : Connection}
    (hconnection : connection ∈ session.connections) :
  (session.storeOf connection).HoldsFindings
  := by
  have hstore := h.stores connection hconnection
  rw [Session.storeOf]
  split
  · apply hstore
  · next place _ => exact ⟨h.files (some place), hstore.uncommitted⟩

/-- Opening a store keeps a session holding findings. -/
theorem openStore (h : session.HoldsFindings) (database : String) :
  (session.openStore database).1.HoldsFindings
  := by
  rw [Session.openStore]
  cases hparent : session.tree.makeParent session.current session.directoryLimit database with
  | error fault => apply h
  | ok parents =>
    have hparents := FileTree.Keeps.makeParent hparent
    simp only
    cases hopen : parents.openDatabase session.current database with
    | error fault =>
      refine ⟨?_, h.stores⟩
      intro place
      rw [hparents.databases]
      apply h.files
    | ok opened =>
      obtain ⟨tree, place⟩ := opened
      constructor
      · intro place
        rw [(hparents.trans (FileTree.openDatabase_spec hopen).1).databases]
        apply h.files
      · intro connection hconnection
        rw [List.mem_append, List.mem_singleton] at hconnection
        obtain hold | rfl := hconnection
        · apply h.stores connection hold
        · apply Store.holdsFindings_of_transaction _ rfl
          rintro _ ⟨⟩

/-- Each step keeps it that all databases hold findings. -/
theorem step (h : session.HoldsFindings) (step : SessionStep) :
  (session.step step).1.HoldsFindings
  := by
  cases step with
  | openStore database => apply h.openStore
  | use number action =>
    rw [Session.step]
    split
    · next connection hconnection =>
      have hstore := (h.storeOf (List.mem_of_getElem? hconnection)).run
        (session.rivalsOf number connection) session.clock.now.1 action
      constructor
      · apply FileTree.holdsFindings_writeDatabase h.files hstore.database
      · intro other hother
        obtain hold | rfl := List.mem_or_eq_of_mem_set hother
        · apply h.stores other hold
        · apply hstore
    · apply h

/-- All steps keep a session holding findings. -/
theorem run (h : session.HoldsFindings) (steps : List SessionStep) :
  (session.run steps).HoldsFindings
  := by
  induction steps generalizing session with
  | nil => apply h
  | cons step steps ih => apply ih (h.step step)

end Session.HoldsFindings

/-! ### Refusals -/

/-- All findings that a table holds for a user have identifiers. -/
def Table.IsReadableFor (table : Table) (user : RawText) : Prop :=
  ∀ row ∈ table.rows, RawText.ofString row.user = user → ∀ findings : List Finding,
    row.results = resultsText (findings.map Finding.toJson) →
    ∀ finding ∈ findings, finding.ruleId ≠ ""

theorem Table.exists_recordsOf {rows : List Row}
    (h : ∀ row ∈ rows, ∃ record, recordOf row = .ok record) :
  ∃ records, recordsOf rows = .ok records
  := by
  induction rows with
  | nil => exact ⟨[], rfl⟩
  | cons row rows ih =>
    rw [List.forall_mem_cons] at h
    obtain ⟨⟨record, hrecord⟩, hrows⟩ := h
    obtain ⟨records, hrecords⟩ := ih hrows
    use record :: records
    rw [recordsOf, hrecord, hrecords]
    rfl

/-- The history of a user can be read when all its findings have identifiers. -/
theorem Table.exists_history {table : Table} (h : table.HoldsFindings) {user : String}
    (hreadable : table.IsReadableFor (.ofString user)) :
  ∃ records, table.history user = .ok records
  := by
  apply exists_recordsOf
  intro row hrow
  rw [rowsOf, List.mem_mergeSort, List.mem_filter, beq_iff_eq] at hrow
  obtain ⟨findings, hfindings⟩ := h row hrow.1
  have hidentified := hreadable row hrow.1 (congrArg RawText.ofString hrow.2) findings hfindings
  rw [recordOf, hfindings, findingsOf_resultsText hidentified]
  use ⟨row.id, row.source, findings.map Finding.readBack, row.user, row.createdAt⟩

namespace Store

section
variable {rivals : Rivals} {store : Store} {error : StoreError}

/-- Why an analysis is not stored: the database refuses it, or a value cannot be stored. -/
theorem save_error_cases {source : SourceText} {results : String} {user : RawText}
    {createdAt : String}
    (h : (store.save rivals source results user createdAt).2 = .error error) :
  error.isRefusal = true ∨ source.bind user = .error error ∨ ∃ message, user.encode = .error message
  := by
  rw [save] at h
  split at h
  · left
    cases h
    rfl
  · simp only at h
    split at h
    · next hbind =>
      right
      left
      cases h
      apply hbind
    · next message _ hencode =>
      right
      right
      exact ⟨message, hencode⟩
    · left
      split at h
      · cases h
        rfl
      · split at h <;> cases h
        rfl

/-- A value that cannot be stored decides the error, once there is a table. -/
theorem save_of_bind_error {table : Table} (hprepare : (store.prepare rivals).2 = .ok table)
    {source : SourceText} {user : RawText} (hbind : source.bind user = .error error)
    (results createdAt : String) :
  (store.save rivals source results user createdAt).2 = .error error
  := by
  rw [save]
  rcases hprepared : store.prepare rivals with ⟨prepared, result⟩
  rw [hprepared] at hprepare
  cases hprepare
  simp only [hbind]

/-- Why a history is not listed: the database refuses it, the user has no encoding, or the records
cannot be read. -/
theorem history_error_cases {user : RawText} (h : (store.history rivals user).2 = .error error) :
  error.isRefusal = true ∨ (∃ message, user.encode = .error message)
  ∨ ∃ table name unreadable, store.visible = .table table ∧ user.encode = .ok name
    ∧ table.history name = .error unreadable
  := by
  rw [history] at h
  rcases hprepare : store.prepare rivals with ⟨prepared, result⟩
  rw [hprepare] at h
  cases result with
  | error fault =>
    left
    cases h
    rfl
  | ok table =>
    obtain ⟨-, hvisible⟩ := store.visible_of_prepare rivals (congrArg Prod.snd hprepare)
    cases hencode : user.encode with
    | error message =>
      right
      left
      use message
    | ok name =>
      simp only [hencode] at h
      split at h
      · left
        cases h
        rfl
      · right
        right
        cases hhistory : table.history name with
        | error unreadable => exact ⟨table, name, unreadable, hvisible, rfl, hhistory⟩
        | ok records =>
          rw [hhistory] at h
          cases h

end

end Store

namespace StoreAction

/-- An action uses a store in the way it is meant to be used: it makes the table, stores findings of
a text or of a missing source, or lists a history whose findings all have identifiers. -/
def IsOrderly (visible : Database) : StoreAction → Prop
  | .save source _ _ => source = .null ∨ ∃ text, source = .string text
  | .list user => ∀ table, visible = .table table → table.IsReadableFor user.asName
  | .initialise | .close | .useOnce => True

/-- The texts that an action hands to the database have an encoding. -/
def IsEncodable : StoreAction → Prop
  | .save source _ user =>
    (∀ text, source = .string text → ∃ plain : String, text = .ofString plain)
    ∧ ∃ name : String, user.asName = .ofString name
  | .list user => ∃ name : String, user.asName = .ofString name
  | .initialise | .close | .useOnce => True

/-- A source that is missing, or is a text with an encoding, can be handed to the database. -/
theorem bind_ofJson_ne_error {source : Json RawText} {findings : List Finding}
    {user : Json RawText} {visible : Database}
    (horderly : (save source findings user).IsOrderly visible)
    (hencodable : (save source findings user).IsEncodable) (name : RawText) (error : StoreError) :
  (SourceText.ofJson source).bind name ≠ .error error
  := by
  obtain rfl | ⟨text, rfl⟩ := horderly
  · rintro ⟨⟩
  · obtain ⟨plain, rfl⟩ := hencodable.1 text rfl
    rw [SourceText.ofJson, SourceText.bind, RawText.encode_ofString]
    rintro ⟨⟩

/-- An orderly action on texts with an encoding fails only because the database refuses it. -/
theorem isRefusal_of_failed {store : Store} (h : store.HoldsFindings) {rivals : Rivals}
    {now : String} {action : StoreAction} {error : SessionError}
    (hfailed : (action.run rivals now store).2 = .failed error)
    (horderly : action.IsOrderly store.visible) (hencodable : action.IsEncodable) :
  ∃ refusal, error = .store refusal ∧ refusal.isRefusal = true
  := by
  cases action with
  | initialise =>
    have hcases := Store.initialising_initialise rivals store
    rw [run] at hfailed
    generalize store.initialise rivals = result at hcases hfailed
    cases hcases with
    | refused _ fault =>
      cases hfailed
      exact ⟨_, rfl, rfl⟩
    | unmade _ _ _ _ fault =>
      cases hfailed
      exact ⟨_, rfl, rfl⟩
    | made => cases hfailed
  | close => cases hfailed
  | useOnce => cases hfailed
  | save source findings user =>
    rw [run] at hfailed
    rcases hsave : store.save rivals (.ofJson source) (resultsText (findings.map Finding.toJson))
      user.asName now with ⟨after, result⟩
    rw [hsave] at hfailed
    cases result with
    | ok id => cases hfailed
    | error refusal =>
      cases hfailed
      refine ⟨refusal, rfl, ?_⟩
      obtain hrefusal | hbind | ⟨message, hencode⟩ :=
        Store.save_error_cases (congrArg Prod.snd hsave)
      · apply hrefusal
      · cases bind_ofJson_ne_error horderly hencodable user.asName refusal hbind
      · obtain ⟨name, hname⟩ := hencodable.2
        rw [hname, RawText.encode_ofString] at hencode
        cases hencode
  | list user =>
    rw [run] at hfailed
    rcases hhistory : store.history rivals user.asName with ⟨after, result⟩
    rw [hhistory] at hfailed
    cases result with
    | ok records => cases hfailed
    | error refusal =>
      cases hfailed
      refine ⟨refusal, rfl, ?_⟩
      obtain ⟨plain, hplain⟩ := hencodable
      obtain hrefusal | ⟨message, hencode⟩ | ⟨table, name, unreadable, hvisible, hencode, hread⟩ :=
        Store.history_error_cases (congrArg Prod.snd hhistory)
      · apply hrefusal
      · rw [hplain, RawText.encode_ofString] at hencode
        cases hencode
      · have hreadable := horderly table hvisible
        rw [RawText.encode_eq_ok_iff.mp hencode] at hreadable
        obtain ⟨records, hrecords⟩ := Table.exists_history (h.visible table hvisible) hreadable
        rw [hread] at hrecords
        cases hrecords

end StoreAction

namespace Session

/-! ### Runs -/

theorem IsSettled.visible? {session : Session} (h : session.IsSettled) (number : Nat) :
  session.visible? number = session.database? number
  := by
  rw [Session.visible?, database?]
  cases hconnection : session.connections[number]? with
  | none => rfl
  | some connection => rw [Option.map_some, Option.map_some, (h.storeOf hconnection).visible]

/-- In whatever state a run is, a step that fails to make the table, to store an analysis or to list
a history changes no file and no database.  As long as no file is open in two stores, each store
also sees what it saw before, and all later answers and the rows of all databases after any later
steps are those of the run without the failed step, but for times.  If the step was orderly and its
texts have an encoding, then it failed because the database refused it. -/
theorem run_failed_step {start : Session} (hstart : start.connections = [])
    (steps : List SessionStep) {number : Nat} {action : StoreAction} {error : SessionError}
    (hfailed : ((start.run steps).step (.use number action)).2 = .failed error) :
  (start.run (steps ++ [.use number action])).tree = (start.run steps).tree
  ∧ (∀ index, (start.run (steps ++ [.use number action])).database? index
    = (start.run steps).database? index)
  ∧ (∀ later, start.RunsSolo (steps ++ .use number action :: later) →
    (∀ index, (start.run (steps ++ [.use number action])).visible? index
      = (start.run steps).visible? index)
    ∧ (start.run (steps ++ .use number action :: later)).timeless
      = (start.run (steps ++ later)).timeless
    ∧ List.Forall₂ SessionAnswer.SameButTimes
      ((start.run (steps ++ [.use number action])).answers later)
      ((start.run steps).answers later))
  ∧ ((∀ place, (start.tree.databaseAt place).HoldsFindings) →
    ∀ visible, (start.run steps).visible? number = some visible →
    action.IsOrderly visible → action.IsEncodable →
    ∃ refusal, error = .store refusal ∧ refusal.isRefusal = true)
  := by
  have hlocked := (isWellLocked_of_connections hstart).run steps
  obtain ⟨htree, hdatabases, htimeless⟩ := hlocked.failed_step hfailed
  have hrun : start.run (steps ++ [.use number action])
      = ((start.run steps).step (.use number action)).1 := by
    rw [run_append]
    rfl
  rw [← hrun] at htree hdatabases htimeless
  refine ⟨htree, hdatabases, ?_, ?_⟩
  · intro later hsolo
    rw [← List.singleton_append, ← List.append_assoc, runsSolo_append] at hsolo
    obtain ⟨hsteps, hlater⟩ := hsolo
    have hbefore := (isSettled_of_connections hstart).run (runsSolo_append.mp hsteps).1
    have hafter := (isSettled_of_connections hstart).run hsteps
    obtain ⟨hlater, hanswers⟩ := run_of_timeless_eq htimeless hafter hbefore hlater
    refine ⟨?_, ?_, hanswers⟩
    · intro index
      rw [hafter.visible?, hbefore.visible?, hdatabases]
    · rw [← run_append, ← run_append, List.append_assoc, List.singleton_append] at hlater
      apply hlater
  · intro hfindings visible hvisible horderly hencodable
    have hholds : start.HoldsFindings := by
      refine ⟨hfindings, ?_⟩
      intro connection hconnection
      rw [hstart] at hconnection
      cases hconnection
    obtain ⟨connection, hconnection, rfl⟩ := Option.map_eq_some_iff.mp hvisible
    have hstore := (hholds.run steps).storeOf (List.mem_of_getElem? hconnection)
    rw [Session.step, hconnection] at hfailed
    apply StoreAction.isRefusal_of_failed hstore hfailed horderly hencodable

/-- Steps after which a file holds one analysis and is open. -/
def savingOnce : List SessionStep :=
  [.openStore "h", .use 0 .initialise, .use 0 (.save (.string "x") [] (.string "ada"))]

/-- A step that stores an analysis without a source, which fails. -/
def withoutSource : StoreAction :=
  .save .null [] (.string "ada")

/-- Steps that go on with the same file, in the same store and in a new one. -/
def goingOn : List SessionStep :=
  [.use 0 (.save (.string "y") [] (.string "ada")), .use 0 .close, .openStore "h",
    .use 1 (.list (.string "ada"))]

theorem run_failed_step_withoutSource :
  inEmptyFolder.connections = []
  ∧ ((inEmptyFolder.run savingOnce).step (.use 0 withoutSource)).2
    = .failed (.store (.cannotSave "ada" .missingSource))
  ∧ inEmptyFolder.RunsSolo (savingOnce ++ .use 0 withoutSource :: goingOn)
  ∧ (∀ place, (inEmptyFolder.tree.databaseAt place).HoldsFindings)
  ∧ (inEmptyFolder.run (savingOnce ++ [.use 0 withoutSource])).tree
    = (inEmptyFolder.run savingOnce).tree
  ∧ (inEmptyFolder.run (savingOnce ++ .use 0 withoutSource :: goingOn)).timeless
    = (inEmptyFolder.run (savingOnce ++ goingOn)).timeless
  ∧ StoreError.isRefusal (.cannotSave "ada" .missingSource) = true
  := by
  have hfailed : ((inEmptyFolder.run savingOnce).step (.use 0 withoutSource)).2
      = .failed (.store (.cannotSave "ada" .missingSource)) := rfl
  have hsolo : inEmptyFolder.RunsSolo (savingOnce ++ .use 0 withoutSource :: goingOn) := by
    rw [← staysSolo_iff]
    rfl
  have hfindings : ∀ place, (inEmptyFolder.tree.databaseAt place).HoldsFindings := by
    rintro (_ | _ | ⟨name, rest⟩) held hheld
    · cases hheld
    · cases hheld
    · cases hheld
  obtain ⟨htree, -, hlater, hrefusal⟩ := run_failed_step rfl savingOnce hfailed
  refine ⟨rfl, hfailed, hsolo, hfindings, htree, (hlater goingOn hsolo).2.1, ?_⟩
  have hvisible : ((inEmptyFolder.run savingOnce).visible? 0).isSome = true := rfl
  obtain ⟨visible, hvisible⟩ := Option.isSome_iff_exists.mp hvisible
  have hencodable : withoutSource.IsEncodable := by
    refine ⟨?_, "ada", rfl⟩
    rintro text ⟨⟩
  obtain ⟨refusal, hsame, hrefused⟩ := hrefusal hfindings visible hvisible (.inl rfl) hencodable
  cases hsame
  apply hrefused

/-- Steps after which a file with a table is open in two stores. -/
def openingTwice : List SessionStep :=
  [.openStore "h", .openStore "h", .use 0 .initialise]

/-- Without the two conditions a failed step makes a difference.  A text without an encoding is not
refused but fails with another error.  And while a file is open in two stores, an analysis that is
refused to one of them leaves a transaction open, so that the other one is refused as well what it
could store without the failed step. -/
theorem failed_step_unencodable_locked :
  (∃ error, error.isRefusal = false
    ∧ ((inEmptyFolder.run openingTwice).step
      (.use 0 (.save (.string RawText.loneSurrogate) [] (.string "ada")))).2
        = .failed (.store error))
  ∧ ((inEmptyFolder.run openingTwice).step (.use 0 withoutSource)).2
    = .failed (.store (.cannotSave "ada" .missingSource))
  ∧ (inEmptyFolder.run (openingTwice ++ [.use 0 withoutSource])).answers
      [.use 1 (.save (.string "x") [] (.string "bob"))]
    = [.failed (.store (.cannotSave "bob" .locked))]
  ∧ (inEmptyFolder.run openingTwice).answers [.use 1 (.save (.string "x") [] (.string "bob"))]
    = [.saved 1]
  := by
  refine ⟨⟨.unencodable RawText.loneSurrogate.encodeFault, rfl, ?_⟩, ?_, ?_, ?_⟩
  · have hready : ((inEmptyFolder.run openingTwice).connections[0]?).map (fun connection =>
        (((inEmptyFolder.run openingTwice).storeOf connection).prepare
          ((inEmptyFolder.run openingTwice).rivalsOf 0 connection)).2)
        = some (.ok {}) := rfl
    obtain ⟨connection, hconnection, hprepare⟩ := Option.map_eq_some_iff.mp hready
    rw [Session.step, hconnection]
    have hbind : ∀ user, (SourceText.ofJson (.string RawText.loneSurrogate)).bind user
      = .error (.unencodable RawText.loneSurrogate.encodeFault) := fun _ => rfl
    simp only [act, StoreAction.run]
    rw [Store.save_of_bind_error hprepare (hbind _), SessionAnswer.ofResult]
  · rfl
  · rfl
  · rfl

end Session

end ContractLint
