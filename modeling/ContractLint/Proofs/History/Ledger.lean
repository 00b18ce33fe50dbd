import Mathlib.Data.List.Induction
import Mathlib.Tactic.Use
import ContractLint.Proofs.History.Alone
import ContractLint.Proofs.History.Files
import ContractLint.Proofs.History.Listing
import ContractLint.Proofs.Text.Raw

/-!
# The ledger of a session

A ledger is kept beside a session and sees its steps and their answers only.  It tells databases
apart by the places that their paths name, and notes what was saved to which.  Whatever the steps,
as long as no file is open in two stores, a history that is listed is the one in the ledger: a file
keeps what was saved to it, however often and under whatever name it is opened, and what is in
memory starts empty with each opening.
-/

namespace ContractLint

/-! ### Ledgers -/

/-- A database: the one in the file at a place, or the one that an opening made in memory. -/
inductive DatabaseKey where
  | file (place : Place)
  | inMemory (opening : Nat)
  deriving DecidableEq

/-- What the steps of a session and their answers tell about databases. -/
structure Ledger where
  /-- The databases that were opened, the oldest first, and whether they still are. -/
  stores : List (DatabaseKey × Bool) := []
  /-- What was saved to a database whose table was made, with the numbers that were answered, the
  oldest first. -/
  entries : DatabaseKey → Option (List (Save × Nat)) := fun _ => none

/-- The entries for a database after an action at some time and its answer. -/
def StoreAction.noted (now : String) (entries? : Option (List (Save × Nat))) :
    StoreAction → SessionAnswer → Option (List (Save × Nat))
  | .initialise, .done => some (entries?.getD [])
  | .save (.string source) findings user, .saved id =>
    match source.string?, user.asName.string? with
    | some source, some name => some (entries?.getD [] ++ [(⟨source, findings, name, now⟩, id)])
    | _, _ => entries?
  | _, _ => entries?

namespace Ledger

/-- The database that is opened next by a path, in a session with a given start. -/
def keyFor (start : Session) (database : String) (ledger : Ledger) : DatabaseKey :=
  if database = ":memory:" ∨ database = "" then .inMemory ledger.stores.length
  else .file (Tree.canonical start.tree start.current database).place

/-- The ledger after the store with a number and the entries for its database changed. -/
def setStore (number : Nat) (key : DatabaseKey) (isOpen : Bool)
    (entries? : Option (List (Save × Nat))) (ledger : Ledger) : Ledger where
  stores := ledger.stores.set number (key, isOpen)
  entries other := if other = key then entries? else ledger.entries other

/-- The ledger after a step at some time and its answer, in a session with a given start. -/
def note (start : Session) (now : String) (ledger : Ledger) :
    SessionStep → SessionAnswer → Ledger
  | .openStore database, .done =>
    { ledger with stores := ledger.stores ++ [(ledger.keyFor start database, true)] }
  | .use number action, answer =>
    match ledger.stores[number]? with
    | some (key, isOpen) =>
      ledger.setStore number key (Store.isOpenAfter isOpen action)
        (action.noted now (ledger.entries key) answer)
    | none => ledger
  | _, _ => ledger

end Ledger

namespace Session

/-- One step of a session and of the ledger beside it. -/
def observe (start : Session) (state : Session × Ledger) (step : SessionStep) :
    Session × Ledger :=
  let (session, answer) := state.1.step step
  (session, state.2.note start state.1.clock.now.1 step answer)

/-- The session and the ledger after some steps. -/
def observed (start : Session) (steps : List SessionStep) : Session × Ledger :=
  steps.foldl (observe start) (start, {})

/-- The ledger beside a session after some steps. -/
def ledger (start : Session) (steps : List SessionStep) : Ledger :=
  (start.observed steps).2

theorem observed_concat (start : Session) (steps : List SessionStep) (step : SessionStep) :
  start.observed (steps ++ [step]) = start.observe (start.observed steps) step
  := by rw [observed, List.foldl_concat, observed]

/-- The ledger does not change the session. -/
theorem observed_fst (start : Session) (steps : List SessionStep) :
  (start.observed steps).1 = start.run steps
  := by
  induction steps using List.reverseRecOn with
  | nil => rfl
  | append_singleton steps step ih =>
    rw [observed_concat, run, List.foldl_concat, ← run, ← ih]
    rfl

end Session

/-- An action that saves does so for a text, with findings that have identifiers. -/
def StoreAction.IsSound : StoreAction → Prop
  | .save source findings _ =>
    (∃ text, source = .string text) ∧ ∀ finding ∈ findings, finding.ruleId ≠ ""
  | _ => True

/-- A step that saves does so for a text, with findings that have identifiers. -/
def SessionStep.IsSound : SessionStep → Prop
  | .openStore _ => True
  | .use _ action => action.IsSound

/-- One record is listed before another: a later time first, and then a larger number. -/
def Record.ListedBefore (a b : Record) : Prop :=
  b.createdAt < a.createdAt ∨ a.createdAt = b.createdAt ∧ b.id < a.id

/-! ### Journals -/

/-- Entries that are numbered from one and can be read back. -/
def IsJournal (entries : List (Save × Nat)) : Prop :=
  entries = Save.numbered (entries.map Prod.fst) ∧ ∀ save ∈ entries.map Prod.fst, save.IsReadable

theorem IsJournal.nil : IsJournal [] :=
  ⟨rfl, by simp⟩

theorem IsJournal.append {entries : List (Save × Nat)} (h : IsJournal entries) {save : Save}
    (hsave : save.IsReadable) :
  IsJournal (entries ++ [(save, entries.length + 1)])
  := by
  obtain ⟨hnumbered, hreadable⟩ := h
  constructor
  · rw [List.map_append, List.map_singleton, Save.numbered, List.zipIdx_append, ← Save.numbered,
      ← hnumbered, List.length_map, Nat.add_comm 1]
    rfl
  · rw [List.map_append, List.map_singleton, List.forall_mem_append, List.forall_mem_singleton]
    exact ⟨hreadable, hsave⟩

/-- The numbers in a journal are one, two, three and so on. -/
theorem IsJournal.map_snd {entries : List (Save × Nat)} (h : IsJournal entries) :
  entries.map Prod.snd = List.range' 1 entries.length
  := by
  rw [h.1, Save.numbered, List.zipIdx_map_snd, List.length_zipIdx]

/-- A database holds a table with some entries, or no table where there are none. -/
def Database.Holds (database : Database) (entries? : Option (List (Save × Nat))) : Prop :=
  match database with
  | .table held => ∃ entries, entries? = some entries ∧ IsJournal entries
    ∧ held = Table.ofSaves (entries.map Prod.fst)
  | .empty | .foreign => entries? = none

theorem Database.Holds.isJournal {database : Database} {entries : List (Save × Nat)}
    (h : database.Holds (some entries)) :
  IsJournal entries ∧ database = .table (Table.ofSaves (entries.map Prod.fst))
  := by
  cases database with
  | empty => cases h
  | foreign => cases h
  | table held =>
    obtain ⟨_, hentries, hjournal, rfl⟩ := h
    cases hentries
    exact ⟨hjournal, rfl⟩

/-! ### Actions -/

namespace Store

variable {store : Store} {entries? : Option (List (Save × Nat))}

/-- The table of a store is the one in the ledger. -/
theorem entries_of_table? (h : store.database.Holds entries?) {table : Table}
    (htable : store.table? = .ok table) :
  ∃ entries, entries? = some entries ∧ IsJournal entries
    ∧ table = Table.ofSaves (entries.map Prod.fst)
  := by
  rw [(table?_eq_ok_iff.mp htable).2] at h
  apply h

/-- The table that an action is to give is noted, unless the action fails. -/
theorem holds_databaseWith (h : store.database.Holds entries?) {result : Except StoreError Table}
    {noted? : Option (List (Save × Nat))}
    (hok : ∀ table, result = .ok table → (Database.table table).Holds noted?)
    (herror : ∀ error, result = .error error → noted? = entries?) :
  (store.databaseWith result).Holds noted?
  := by
  cases result with
  | ok table => apply hok table rfl
  | error error =>
    rw [herror error rfl]
    apply h

theorem holds_madeTable (h : store.database.Holds entries?) (now : String) :
  (store.databaseAfter now .initialise).Holds
    (StoreAction.initialise.noted now entries? (store.answerTo now .initialise))
  := by
  rw [databaseAfter, answerTo]
  apply holds_databaseWith h
  · intro table htable
    rw [htable]
    rw [madeTable] at htable
    split at htable
    · next held hheld =>
      cases htable
      obtain ⟨entries, rfl, hjournal, rfl⟩ := entries_of_table? h hheld
      exact ⟨entries, rfl, hjournal, rfl⟩
    · next hnone =>
      cases htable
      rw [database_of_noTable hnone] at h
      cases h
      exact ⟨[], rfl, IsJournal.nil, rfl⟩
    · cases htable
  · intro error herror
    rw [herror]
    rfl

theorem holds_savedTable (h : store.database.Holds entries?) (now : String) (source : RawText)
    {findings : List Finding} (hfindings : ∀ finding ∈ findings, finding.ruleId ≠ "")
    (user : Json RawText) :
  (store.databaseAfter now (.save (.string source) findings user)).Holds
    ((StoreAction.save (.string source) findings user).noted now entries?
      (store.answerTo now (.save (.string source) findings user)))
  := by
  rw [databaseAfter, answerTo]
  simp only [SourceText.ofJson]
  obtain ⟨error, herror⟩ | ⟨table, text, name, htable, rfl, huser, hsaved⟩ :=
    store.savedTable_cases source (resultsText (findings.map Finding.toJson)) user.asName now
  · rw [herror]
    apply h
  · obtain ⟨entries, rfl, hjournal, rfl⟩ := entries_of_table? h htable
    rw [hsaved, Table.insert_ofSaves]
    simp only [StoreAction.noted, huser, SessionAnswer.ofResult, RawText.string?_ofString,
      Option.getD_some]
    have hsave : Save.IsReadable ⟨text, findings, name, now⟩ := hfindings
    refine ⟨_, rfl, ?_, ?_⟩
    · rw [Table.ofSaves, List.length_append, List.length_map]
      apply hjournal.append hsave
    · rw [List.map_append]
      rfl

/-- A sound action leaves a database that holds what is noted. -/
theorem holds_databaseAfter (h : store.database.Holds entries?) (now : String)
    {action : StoreAction} (hsound : action.IsSound) :
  (store.databaseAfter now action).Holds (action.noted now entries? (store.answerTo now action))
  := by
  cases action with
  | initialise => apply holds_madeTable h
  | close => apply h
  | useOnce => apply h
  | save source findings user =>
    obtain ⟨⟨text, rfl⟩, hfindings⟩ := hsound
    apply holds_savedTable h now text hfindings
  | list user => apply h

/-- An action leaves a database as it was, or with a table. -/
theorem databaseAfter_cases (store : Store) (now : String) (action : StoreAction) :
  (∃ table, store.databaseAfter now action = .table table)
  ∨ store.databaseAfter now action = store.database
  := by
  have hwith : ∀ result, (∃ table, store.databaseWith result = .table table)
      ∨ store.databaseWith result = store.database := by
    intro result
    cases result with
    | ok table => exact .inl ⟨table, rfl⟩
    | error error => exact .inr rfl
  cases action with
  | initialise => apply hwith
  | save source findings user => apply hwith
  | close => exact .inr rfl
  | useOnce => exact .inr rfl
  | list user => exact .inr rfl

end Store

/-! ### What a ledger knows -/

/-- The database of a connection that was opened as the one with a number. -/
def Connection.key (number : Nat) (connection : Connection) : DatabaseKey :=
  match connection.place with
  | some place => .file place
  | none => .inMemory number

theorem Connection.key_eq_file_iff {number : Nat} {connection : Connection} {place : Place} :
  connection.key number = .file place ↔ connection.place = some place
  := by
  rw [key]
  cases connection.place <;> simp

theorem Connection.key_eq_inMemory_iff {number opening : Nat} {connection : Connection} :
  connection.key number = .inMemory opening ↔ connection.place = none ∧ number = opening
  := by
  rw [key]
  cases connection.place <;> simp

namespace Ledger

/-- A ledger keeps track of a session: it describes the databases in all files and in memory. -/
structure Tracks (start session : Session) (ledger : Ledger) : Prop where
  /-- The current directory stays. -/
  current : session.current = start.current
  /-- No link is added or removed, so that paths lead where they led at the start. -/
  links : session.tree.SameLinks start.tree
  /-- Nothing waits to be committed. -/
  settled : session.IsSettled
  /-- The stores are those in the ledger. -/
  stores : ledger.stores = session.connections.mapIdx
    fun number connection => (connection.key number, connection.store.isOpen)
  /-- The files of stores are there. -/
  present : ∀ connection ∈ session.connections, ∀ place, connection.place = some place →
    ∃ content, session.tree.get? place = some (.file content)
  /-- Each file holds the entries in the ledger. -/
  files : ∀ place, (session.tree.databaseAt (some place)).Holds (ledger.entries (.file place))
  /-- Each database in memory holds the entries in the ledger. -/
  inMemory : ∀ (number : Nat) (connection : Connection),
    session.connections[number]? = some connection → connection.place = none →
    connection.store.database.Holds (ledger.entries (.inMemory number))
  /-- All entries are journals. -/
  journals : ∀ key entries, ledger.entries key = some entries → IsJournal entries
  /-- Nothing is noted for openings to come. -/
  unused : ∀ number, session.connections.length ≤ number → ledger.entries (.inMemory number) = none

section
variable {start session : Session} {ledger : Ledger}

theorem Tracks.initial (hconnections : start.connections = [])
    (hfresh : ∀ place table, start.tree.get? place ≠ some (.file (.database table))) :
  Tracks start start {}
  where
  current := rfl
  links := fun _ _ => Iff.rfl
  settled := Session.isSettled_of_connections hconnections
  stores := by
    rw [hconnections]
    rfl
  present := by
    intro connection hconnection
    rw [hconnections] at hconnection
    cases hconnection
  files := by
    intro place
    cases hdatabase : start.tree.databaseAt (some place) with
    | table table => cases hfresh place table (FileTree.get?_of_databaseAt_eq_table hdatabase)
    | empty => rfl
    | foreign => rfl
  inMemory := by
    intro number connection hconnection
    rw [hconnections] at hconnection
    cases hconnection
  journals := by rintro key entries ⟨⟩
  unused := fun _ _ => rfl

theorem Tracks.getElem?_stores (h : Tracks start session ledger) (number : Nat) :
  ledger.stores[number]? = (session.connections[number]?).map
    fun connection => (connection.key number, connection.store.isOpen)
  := by rw [h.stores, List.getElem?_mapIdx]

/-- A store holds what the ledger knows about its database. -/
theorem Tracks.holds (h : Tracks start session ledger) {number : Nat} {connection : Connection}
    (hconnection : session.connections[number]? = some connection) :
  (session.storeOf connection).database.Holds (ledger.entries (connection.key number))
  := by
  cases hplace : connection.place with
  | none =>
    simp only [Session.storeOf, Connection.key, hplace]
    apply h.inMemory number connection hconnection hplace
  | some place =>
    simp only [Session.storeOf, Connection.key, hplace]
    apply h.files

/-! ### Opening -/

/-- Added directories and empty files make no difference to a ledger. -/
theorem Tracks.keeps (h : Tracks start session ledger) {tree : FileTree}
    (hkeeps : session.tree.Keeps tree) :
  Tracks start { session with tree } ledger
  where
  current := h.current
  links place target := (hkeeps.links place target).trans (h.links place target)
  settled := h.settled
  stores := h.stores
  present := by
    intro connection hconnection place hplace
    obtain ⟨content, hfile⟩ := h.present connection hconnection place hplace
    exact ⟨content, hkeeps.files place content hfile⟩
  files := by
    intro place
    rw [hkeeps.databases]
    apply h.files
  inMemory := h.inMemory
  journals := h.journals
  unused := h.unused

/-- A database that is opened holds what the ledger knows about it. -/
theorem Tracks.connect (h : Tracks start session ledger) {place : Option Place}
    (hfile : ∀ found, place = some found →
      ∃ content, session.tree.get? found = some (.file content)) :
  Tracks start { session with connections := session.connections ++ [⟨place, {}⟩] }
    { ledger with
      stores := ledger.stores ++ [(Connection.key session.connections.length ⟨place, {}⟩, true)] }
  where
  current := h.current
  links := h.links
  settled := by
    intro connection hconnection
    rw [List.mem_append, List.mem_singleton] at hconnection
    obtain hold | rfl := hconnection
    · apply h.settled connection hold
    · apply Store.isSettled_of_transaction rfl
  stores := by
    rw [List.mapIdx_append, ← h.stores, List.mapIdx_singleton, Nat.zero_add]
  present := by
    intro connection hconnection found hfound
    rw [List.mem_append, List.mem_singleton] at hconnection
    obtain hold | rfl := hconnection
    · apply h.present connection hold found hfound
    · apply hfile found hfound
  files := h.files
  inMemory := by
    intro number connection hconnection hplace
    rw [List.getElem?_append] at hconnection
    split at hconnection
    · apply h.inMemory number connection hconnection hplace
    · next hnew =>
      obtain rfl := List.mem_singleton.mp (List.mem_of_getElem? hconnection)
      apply h.unused number (Nat.le_of_not_lt hnew)
  journals := h.journals
  unused := by
    intro number hnumber
    rw [List.length_append] at hnumber
    apply h.unused number (Nat.le_of_add_right_le hnumber)

theorem Tracks.length_stores (h : Tracks start session ledger) :
  ledger.stores.length = session.connections.length
  := by rw [h.stores, List.length_mapIdx]

/-- The database that is opened is the one that its path names. -/
theorem Tracks.keyFor_eq (h : Tracks start session ledger) {opened : FileTree} {database : String}
    {place : Option Place}
    (hopen : session.tree.openDatabase session.current database = .ok (opened, place)) :
  ledger.keyFor start database = Connection.key session.connections.length ⟨place, {}⟩
  := by
  obtain ⟨-, hplace⟩ := FileTree.openDatabase_spec hopen
  rw [keyFor]
  split at hplace
  · next hmemory => rw [if_pos hmemory, hplace, h.length_stores, Connection.key]
  · next hmemory =>
    -- the path is followed among today's files, the key was fixed among those of the start
    rw [if_neg hmemory, hplace.1, h.links.canonical_eq, h.current, Connection.key]

theorem Tracks.openStore (h : Tracks start session ledger) (now database : String) :
  Tracks start (session.openStore database).1
    (ledger.note start now (.openStore database) (session.openStore database).2)
  := by
  rw [Session.openStore]
  cases hparent : session.tree.makeParent session.current session.directoryLimit database with
  | error fault => apply h
  | ok parents =>
    have hparents := h.keeps (FileTree.Keeps.makeParent hparent)
    simp only
    cases hopen : parents.openDatabase session.current database with
    | error fault => apply hparents
    | ok result =>
      obtain ⟨tree, place⟩ := result
      obtain ⟨htree, hplace⟩ := FileTree.openDatabase_spec hopen
      simp only [note, hparents.keyFor_eq hopen]
      apply (hparents.keeps htree).connect
      rintro found rfl
      split at hplace
      · cases hplace
      · rw [Option.some.injEq] at hplace
        rw [hplace.1]
        apply hplace.2

/-! ### Actions -/

/-- Writing the database of a store changes no other database. -/
theorem Tracks.written (h : Tracks start session ledger) {number : Nat} {connection : Connection}
    (hconnection : session.connections[number]? = some connection) {database : Database}
    (hdatabase : (∃ table, database = .table table)
      ∨ database = (session.storeOf connection).database) :
  (session.tree.writeDatabase connection.place database).SameLinks session.tree
  ∧ (∀ there found, session.tree.get? there = some (.file found) → ∃ content,
    (session.tree.writeDatabase connection.place database).get? there = some (.file content))
  ∧ (∀ place, connection.place = some place →
    (session.tree.writeDatabase connection.place database).databaseAt (some place) = database)
  ∧ ∀ place, connection.place ≠ some place →
    (session.tree.writeDatabase connection.place database).databaseAt (some place)
      = session.tree.databaseAt (some place)
  := by
  cases hplace : connection.place with
  | none =>
    refine ⟨fun _ _ => Iff.rfl, ?_, by rintro _ ⟨⟩, fun _ _ => rfl⟩
    intro there found hfound
    exact ⟨found, hfound⟩
  | some place =>
    obtain ⟨content, hfile⟩ :=
      h.present connection (List.mem_of_getElem? hconnection) place hplace
    simp only [Session.storeOf, hplace] at hdatabase
    obtain ⟨hlinks, hfiles, hself, hother⟩ := FileTree.writeDatabase_spec hfile hdatabase
    refine ⟨hlinks, hfiles, ?_, ?_⟩
    · rintro _ ⟨⟩
      apply hself
    · intro other hne
      apply hother
      rintro rfl
      apply hne rfl

/-- A store that changed is the one that the ledger then knows, and no other database changes. -/
theorem Tracks.withStore (h : Tracks start session ledger) {number : Nat} {connection : Connection}
    (hconnection : session.connections[number]? = some connection) {store : Store}
    (hsettled : store.IsSettled)
    (hdatabase : (∃ table, store.database = .table table)
      ∨ store.database = (session.storeOf connection).database)
    {entries? : Option (List (Save × Nat))} (hholds : store.database.Holds entries?) :
  Tracks start (session.withStore number connection store)
    (ledger.setStore number (connection.key number) store.isOpen entries?)
  := by
  obtain ⟨hlinks, hfiles, hself, hother⟩ := h.written hconnection hdatabase
  have hentry : (ledger.setStore number (connection.key number) store.isOpen entries?).entries
      (connection.key number) = entries? := if_pos rfl
  have hentries : ∀ key ≠ connection.key number,
      (ledger.setStore number (connection.key number) store.isOpen entries?).entries key
        = ledger.entries key :=
    fun key hne => if_neg hne
  exact {
    current := h.current
    links := fun place target => (hlinks place target).trans (h.links place target)
    settled := by
      intro other hmem
      obtain hold | rfl := List.mem_or_eq_of_mem_set hmem
      · apply h.settled other hold
      · apply hsettled
    stores := by
      rw [setStore, h.stores, Session.withStore, List.mapIdx_set]
      rfl
    present := by
      intro other hmem place hplace
      have hpresent : ∃ content, session.tree.get? place = some (.file content) := by
        obtain hold | rfl := List.mem_or_eq_of_mem_set hmem
        · apply h.present other hold place hplace
        · apply h.present connection (List.mem_of_getElem? hconnection) place hplace
      obtain ⟨found, hfound⟩ := hpresent
      apply hfiles place found hfound
    files := by
      intro place
      by_cases hplace : connection.place = some place
      · rw [← Connection.key_eq_file_iff.mpr hplace, hentry, Session.withStore, hself place hplace]
        apply hholds
      · have hkey : DatabaseKey.file place ≠ connection.key number :=
          fun hkey => hplace (Connection.key_eq_file_iff.mp hkey.symm)
        rw [hentries _ hkey, Session.withStore, hother place hplace]
        apply h.files
    inMemory := by
      intro index found hfound hplace
      by_cases hindex : index = number
      · subst hindex
        obtain ⟨hnumber, -⟩ := List.getElem?_eq_some_iff.mp hconnection
        rw [Session.withStore, List.getElem?_set_self hnumber] at hfound
        cases hfound
        have hkey : connection.key index = .inMemory index :=
          Connection.key_eq_inMemory_iff.mpr ⟨hplace, rfl⟩
        rw [← hkey, hentry]
        apply hholds
      · have hkey : DatabaseKey.inMemory index ≠ connection.key number :=
          fun hkey => hindex (Connection.key_eq_inMemory_iff.mp hkey.symm).2.symm
        rw [Session.withStore, List.getElem?_set_ne (Ne.symm hindex)] at hfound
        rw [hentries _ hkey]
        apply h.inMemory index found hfound hplace
    journals := by
      intro key entries hkey
      by_cases hne : key = connection.key number
      · rw [hne, hentry] at hkey
        rw [hkey] at hholds
        apply hholds.isJournal.1
      · rw [hentries key hne] at hkey
        apply h.journals key entries hkey
    unused := by
      intro index hindex
      rw [Session.withStore, List.length_set] at hindex
      have hkey : DatabaseKey.inMemory index ≠ connection.key number := by
        intro hkey
        obtain ⟨-, rfl⟩ := Connection.key_eq_inMemory_iff.mp hkey.symm
        obtain ⟨hnumber, -⟩ := List.getElem?_eq_some_iff.mp hconnection
        exact Nat.not_lt_of_le hindex hnumber
      rw [hentries _ hkey]
      apply h.unused index hindex }

/-- The clock of a session makes no difference to a ledger. -/
theorem Tracks.withClock (h : Tracks start session ledger) (clock : Clock) :
  Tracks start { session with clock } ledger
  := ⟨h.current, h.links, h.settled, h.stores, h.present, h.files, h.inMemory,
    h.journals, h.unused⟩

/-! ### Steps -/

/-- A ledger that keeps track of a session does so after one more step. -/
theorem Tracks.step (h : Tracks start session ledger) (hsolo : session.IsSolo) {step : SessionStep}
    (hsound : step.IsSound) :
  Tracks start (session.step step).1
    (ledger.note start session.clock.now.1 step (session.step step).2)
  := by
  cases step with
  | openStore database => apply h.openStore
  | use number action =>
    have hnumber := h.getElem?_stores number
    rw [Session.step]
    cases hconnection : session.connections[number]? with
    | none =>
      rw [hconnection, Option.map_none] at hnumber
      simp only [note, hnumber]
      apply h
    | some connection =>
      rw [hconnection, Option.map_some] at hnumber
      obtain ⟨store, hact, hdatabase, hisOpen, hsettled⟩ :=
        Session.act_solo hsolo h.settled hconnection action
      have hclock := h.withClock (action.clockAfter session.clock)
      simp only [hact, note, hnumber, ← hisOpen]
      apply hclock.withStore hconnection hsettled
      · rw [hdatabase]
        apply Store.databaseAfter_cases
      · rw [hdatabase]
        apply Store.holds_databaseAfter (h.holds hconnection) _ hsound

theorem Tracks.observed (hconnections : start.connections = [])
    (hfresh : ∀ place table, start.tree.get? place ≠ some (.file (.database table)))
    {steps : List SessionStep} (hsound : ∀ step ∈ steps, step.IsSound)
    (hsolo : start.RunsSolo steps) :
  Tracks start (start.observed steps).1 (start.observed steps).2
  := by
  induction steps using List.reverseRecOn with
  | nil => apply Tracks.initial hconnections hfresh
  | append_singleton steps step ih =>
    rw [List.forall_mem_append, List.forall_mem_singleton] at hsound
    rw [Session.runsSolo_append] at hsolo
    rw [Session.observed_concat]
    apply (ih hsound.1 hsolo.1).step _ hsound.2
    rw [Session.observed_fst]
    apply hsolo.2.1

/-- An open store whose table was made answers as one that holds the entries in the ledger. -/
theorem Tracks.exists_answerTo (h : Tracks start session ledger) (hsolo : session.IsSolo)
    {number : Nat} {key : DatabaseKey} (hstore : ledger.stores[number]? = some (key, true))
    {entries : List (Save × Nat)} (hentries : ledger.entries key = some entries) :
  IsJournal entries ∧ ∃ store : Store,
    store.table? = .ok (Table.ofSaves (entries.map Prod.fst))
    ∧ ∀ action, (session.step (.use number action)).2 = store.answerTo session.clock.now.1 action
  := by
  rw [h.getElem?_stores, Option.map_eq_some_iff] at hstore
  obtain ⟨connection, hconnection, hsame⟩ := hstore
  obtain ⟨rfl, hopen⟩ := Prod.mk.inj hsame
  have hholds := h.holds hconnection
  rw [hentries] at hholds
  obtain ⟨hjournal, hdatabase⟩ := hholds.isJournal
  refine ⟨hjournal, session.storeOf connection, ?_, ?_⟩
  · rw [Store.table?_eq_ok_iff, Session.isOpen_storeOf]
    exact ⟨hopen, hdatabase⟩
  · intro action
    obtain ⟨store, hact, -⟩ := Session.act_solo hsolo h.settled hconnection action
    simp only [Session.step, hconnection, hact]

end

end Ledger

/-! ### Answers -/

namespace Store

variable {store : Store}

/-- A store lists the history of a user. -/
theorem answerTo_list {saves : List Save} (htable : store.table? = .ok (Table.ofSaves saves))
    (hreadable : ∀ save ∈ saves, save.IsReadable) {user : Json RawText} {name : String}
    (huser : user.asName = .ofString name) (now : String) :
  store.answerTo now (.list user)
    = .listed ((Table.listed name saves).map fun (save, id) => save.record id)
  := by
  rw [answerTo, huser, records_ofSaves htable hreadable]
  rfl

/-- A store stores the findings of a text. -/
theorem answerTo_save {saves : List Save} (htable : store.table? = .ok (Table.ofSaves saves))
    {user : Json RawText} {name : String} (huser : user.asName = .ofString name)
    (source now : String) (findings : List Finding) :
  store.answerTo now (.save (.string (.ofString source)) findings user) = .saved (saves.length + 1)
  := by
  rw [answerTo, SourceText.ofJson, huser, savedTable_ofString htable]
  rfl

/-- Nothing is listed for a user without an encoding. -/
theorem exists_answerTo_list (htable : ∃ table, store.table? = .ok table) {user : Json RawText}
    (huser : ∀ name : String, user.asName ≠ .ofString name) (now : String) :
  ∃ error, store.answerTo now (.list user) = .failed error
  := by
  obtain ⟨table, htable⟩ := htable
  obtain ⟨name, hname⟩ | ⟨hencode, -⟩ := user.asName.encode_cases
  · cases huser name hname
  · rw [answerTo, records, htable, hencode]
    exact ⟨_, rfl⟩

/-- A text or a user without an encoding is not stored. -/
theorem exists_answerTo_save {source : RawText} {user : Json RawText}
    (h : (∀ text : String, source ≠ .ofString text) ∨ ∀ name : String, user.asName ≠ .ofString name)
    (now : String) (findings : List Finding) (store : Store) :
  ∃ error, store.answerTo now (.save (.string source) findings user) = .failed error
  := by
  obtain ⟨error, herror⟩ := exists_savedTable_eq_error h
    (resultsText (findings.map Finding.toJson)) now store
  rw [answerTo, SourceText.ofJson, herror]
  exact ⟨_, rfl⟩

end Store

/-- Whatever the steps of a session, as long as no file is open in two stores, the numbers of the
saves to one database are one, two, three and so on.  An open database whose table was made stores
what has an encoding under the next number.  It lists for each user with an encoding what was saved
to it for that user, now or in earlier uses: each save once, with its source and its findings, the
newest first.  Where the text or the user has no encoding, nothing is stored or listed. -/
theorem Session.list_run {start : Session} (hconnections : start.connections = [])
    (hfresh : ∀ place table, start.tree.get? place ≠ some (.file (.database table)))
    {steps : List SessionStep} (hsound : ∀ step ∈ steps, step.IsSound)
    (hsolo : start.RunsSolo steps) :
  (∀ key entries, (start.ledger steps).entries key = some entries →
    entries.map Prod.snd = List.range' 1 entries.length)
  ∧ ∀ number key entries, (start.ledger steps).stores[number]? = some (key, true) →
    (start.ledger steps).entries key = some entries →
    (∀ (user : Json RawText) (name : String), user.asName = .ofString name →
      (∃ records, ((start.run steps).step (.use number (.list user))).2 = .listed records
        ∧ records.Perm ((entries.filter fun (save, _) => save.user == name).map
          fun (save, id) => save.record id)
        ∧ records.Pairwise Record.ListedBefore)
      ∧ ∀ (source : String) findings,
        ((start.run steps).step (.use number (.save (.string (.ofString source)) findings user))).2
          = .saved (entries.length + 1))
    ∧ (∀ user : Json RawText, (∀ name : String, user.asName ≠ .ofString name) →
      ∃ error, ((start.run steps).step (.use number (.list user))).2 = .failed error)
    ∧ ∀ (source : RawText) findings (user : Json RawText),
      ((∀ text : String, source ≠ .ofString text)
        ∨ ∀ name : String, user.asName ≠ .ofString name) →
      ∃ error, ((start.run steps).step (.use number (.save (.string source) findings user))).2
        = .failed error
  := by
  have htracks := Ledger.Tracks.observed hconnections hfresh hsound hsolo
  rw [observed_fst, ← ledger] at htracks
  constructor
  · intro key entries hentries
    apply (htracks.journals key entries hentries).map_snd
  · intro number key entries hstore hentries
    obtain ⟨hjournal, store, htable, hanswers⟩ :=
      htracks.exists_answerTo hsolo.run hstore hentries
    simp only [hanswers]
    refine ⟨?_, ?_, ?_⟩
    · intro user name huser
      constructor
      · refine ⟨_, Store.answerTo_list htable hjournal.2 huser _, ?_, ?_⟩
        · nth_rewrite 2 [hjournal.1]
          apply (Table.listed_perm name (entries.map Prod.fst)).map
        · rw [List.pairwise_map]
          apply (Table.pairwise_listed name (entries.map Prod.fst)).imp
          intro a b hbefore
          apply hbefore
      · intro source findings
        rw [Store.answerTo_save htable huser, List.length_map]
    · intro user huser
      apply Store.exists_answerTo_list ⟨_, htable⟩ huser
    · intro source findings user h
      apply Store.exists_answerTo_save h

theorem Session.inEmptyFolder_fresh (place : Place) (table : Table) :
  inEmptyFolder.tree.get? place ≠ some (.file (.database table))
  := by
  rintro hfile
  cases place <;> cases hfile

/-- Steps that use a file, then memory, and then the same file by another name. -/
def SessionStep.reopening : List SessionStep :=
  [.openStore "h", .use 0 .initialise, .use 0 (.save (.string " ") [] (.string "5")),
    .use 0 .close, .openStore ":memory:", .use 1 .initialise,
    .use 1 (.save (.string "z") [] (.string "5")),
    .openStore "./h", .use 2 (.save (.string "y") [] (.number (.integer 5))),
    .use 2 (.save (.string "y") [] (.string "ada"))]

theorem Session.list_run_reopening :
  inEmptyFolder.connections = []
  ∧ (∀ place table, inEmptyFolder.tree.get? place ≠ some (.file (.database table)))
  ∧ (∀ step ∈ SessionStep.reopening, step.IsSound)
  ∧ inEmptyFolder.RunsSolo SessionStep.reopening
  ∧ ∃ entries : List (Save × Nat),
    entries.map (fun (save, id) => (id, save.source, save.user))
      = [(1, " ", "5"), (2, "y", "5"), (3, "y", "ada")]
    ∧ ∃ records,
      ((inEmptyFolder.run SessionStep.reopening).step (.use 2 (.list (.string "5")))).2
        = .listed records
      ∧ records.Perm ((entries.filter fun (save, _) => save.user == "5").map
        fun (save, id) => save.record id)
      ∧ records.Pairwise Record.ListedBefore
  := by
  have hsound : ∀ step ∈ SessionStep.reopening, step.IsSound := by
    simp [SessionStep.reopening, SessionStep.IsSound, StoreAction.IsSound]
  have hsolo : inEmptyFolder.RunsSolo SessionStep.reopening := by
    rw [← staysSolo_iff]
    rfl
  have hledger : ((inEmptyFolder.ledger SessionStep.reopening).stores[2]?,
      ((inEmptyFolder.ledger SessionStep.reopening).entries (.file ["h"])).map
        (List.map fun (save, id) => (id, save.source, save.user)))
      = (some (.file ["h"], true), some [(1, " ", "5"), (2, "y", "5"), (3, "y", "ada")]) := rfl
  rw [Prod.mk.injEq, Option.map_eq_some_iff] at hledger
  obtain ⟨hstore, entries, hentries, hnoted⟩ := hledger
  refine ⟨rfl, inEmptyFolder_fresh, hsound, hsolo, entries, hnoted, ?_⟩
  obtain ⟨hlisted, -⟩ :=
    (list_run rfl inEmptyFolder_fresh hsound hsolo).2 2 _ entries hstore hentries
  apply (hlisted (.string "5") "5" rfl).1

/-- An open store whose table was made lists nothing for a user without an encoding: it fails,
although nothing can have been saved for such a user. -/
theorem Session.list_loneSurrogate :
  inEmptyFolder.RunsSolo [.openStore "h", .use 0 .initialise]
  ∧ (inEmptyFolder.ledger [.openStore "h", .use 0 .initialise]).stores[0]?
    = some (.file ["h"], true)
  ∧ (inEmptyFolder.ledger [.openStore "h", .use 0 .initialise]).entries (.file ["h"])
    = some []
  ∧ ∃ error, ((inEmptyFolder.run [.openStore "h", .use 0 .initialise]).step
      (.use 0 (.list (.string .loneSurrogate)))).2 = .failed error
  := by
  have hsolo : inEmptyFolder.RunsSolo [.openStore "h", .use 0 .initialise] := by
    rw [← staysSolo_iff]
    rfl
  have hstore : (inEmptyFolder.ledger [.openStore "h", .use 0 .initialise]).stores[0]?
      = some (.file ["h"], true) := rfl
  have hentries : (inEmptyFolder.ledger [.openStore "h", .use 0 .initialise]).entries
      (.file ["h"]) = some [] := rfl
  refine ⟨hsolo, hstore, hentries, ?_⟩
  have hsound : ∀ step ∈ [SessionStep.openStore "h", .use 0 .initialise], step.IsSound := by
    simp [SessionStep.IsSound, StoreAction.IsSound]
  have htracks := Ledger.Tracks.observed rfl inEmptyFolder_fresh hsound hsolo
  rw [observed_fst, ← ledger] at htracks
  obtain ⟨-, store, htable, hanswers⟩ := htracks.exists_answerTo hsolo.run hstore hentries
  rw [hanswers]
  apply Store.exists_answerTo_list ⟨_, htable⟩
  apply RawText.loneSurrogate_ne_ofString

end ContractLint
