import Mathlib.Data.List.Basic
import Mathlib.Tactic.Use
import ContractLint.History.Session
import ContractLint.Proofs.History.Listing
import ContractLint.Proofs.History.Transaction
import ContractLint.Proofs.Text.Raw

/-!
# Stores that are alone on their files

A store that has its file to itself depends on the table that is committed and on nothing else, and
after each operation nothing waits to be committed.  While no file is open in two stores, all stores
of a session are alone in this way.
-/

namespace ContractLint

namespace Store

/-! ### Stores -/

/-- Nothing waits to be committed, and a closed store holds nothing of its file. -/
structure IsSettled (store : Store) : Prop where
  /-- All rows are committed. -/
  committed : store.uncommitted? = none
  /-- A closed store holds nothing. -/
  closed : store.isOpen = false → store.lock = .none

/-- The table that is committed, or why there is none. -/
def table? (store : Store) : Except StoreFault Table :=
  if store.isOpen then
    match store.database with
    | .foreign => .error .notDatabase
    | .empty => .error .noTable
    | .table table => .ok table
  else .error .closed

/-- The table once it is made. -/
def madeTable (store : Store) : Except StoreError Table :=
  match store.table? with
  | .ok table => .ok table
  | .error .noTable => .ok {}
  | .error fault => .error (.cannotInitialise fault)

/-- The table once an analysis is stored. -/
def savedTable (source : SourceText) (results : String) (user : RawText) (createdAt : String)
    (store : Store) : Except StoreError Table :=
  match store.table? with
  | .error fault => .error (.cannotSave user fault)
  | .ok table =>
    match source.bind user, user.encode with
    | .error error, _ => .error error
    | .ok _, .error message => .error (.unencodable message)
    | .ok none, .ok _ => .error (.cannotSave user .missingSource)
    | .ok (some source), .ok name => .ok (table.insert source results name createdAt)

/-- The records of a user in the table that is committed. -/
def records (user : RawText) (store : Store) : Except StoreError (List Record) :=
  match store.table?, user.encode with
  | .error fault, _ => .error (.cannotRead user fault)
  | .ok _, .error message => .error (.unencodable message)
  | .ok table, .ok name => (table.history name).mapError .unreadable

/-- The database after an operation that was to give a table. -/
def databaseWith (result : Except StoreError Table) (store : Store) : Database :=
  match result with
  | .ok table => .table table
  | .error _ => store.database

/-- A store comes to rest with some database. -/
structure Settles (before : Store) (database : Database) (after : Store) : Prop where
  /-- The store is as open as before. -/
  isOpen : after.isOpen = before.isOpen
  /-- The database is the given one. -/
  database : after.database = database
  /-- Nothing waits to be committed. -/
  settled : after.IsSettled

section
variable {rivals : Rivals} {store : Store}

theorem IsSettled.visible (h : store.IsSettled) :
  store.visible = store.database
  := by rw [visible_eq, h.committed, Option.map_none, Option.getD_none]

/-- An open store that is kept stays settled. -/
theorem IsSettled.settles {after : Store} (h : store.IsSettled)
    (hkeeps : Keeps rivals store after) (hopen : store.isOpen = true) :
  Settles store store.database after
  where
  isOpen := hkeeps.isOpen
  database := hkeeps.database
  settled := {
    committed := hkeeps.uncommitted.trans h.committed
    closed := by
      intro hclosed
      rw [hkeeps.isOpen, hopen] at hclosed
      cases hclosed }

theorem isSettled_of_transaction (h : store.transaction = none) :
  store.IsSettled
  where
  committed := by rw [uncommitted?, h, Option.bind_none]
  closed := by
    intro _
    rw [lock, h]
    rfl

theorem table?_eq_ok_iff {table : Table} :
  store.table? = .ok table ↔ store.isOpen = true ∧ store.database = .table table
  := by
  rw [table?]
  split
  · next hopen => cases store.database <;> simp [hopen]
  · next hclosed => simp [hclosed]

/-- A store that keeps its database keeps its table. -/
theorem Settles.table? {after : Store} (h : Settles store store.database after) :
  after.table? = store.table?
  := by rw [Store.table?, Store.table?, h.isOpen, h.database]

theorem database_of_noTable (h : store.table? = .error .noTable) : store.database = .empty := by
  rw [table?] at h
  split at h
  · split at h
    · cases h
    · assumption
    · cases h
  · cases h

/-- Looking for the table of a store that is alone while it is open. -/
theorem prepare_alone (h : store.IsSettled) (halone : store.isOpen = true → rivals = {}) :
  ∃ seen, store.prepare rivals = ({ store with seen }, store.table?)
  := by
  rw [prepare, table?, h.visible]
  split
  · next hopen =>
    obtain rfl := halone hopen
    cases hdatabase : store.database with
    | foreign =>
      use store.seen
      simp only [← hdatabase]
    | empty => exact ⟨some false, rfl⟩
    | table table => exact ⟨some true, rfl⟩
  · exact ⟨store.seen, rfl⟩

/-- Making the table in a store that is alone while it is open. -/
theorem initialise_alone (h : store.IsSettled) (halone : store.isOpen = true → rivals = {}) :
  (store.initialise rivals).2 = store.madeTable.map (fun _ => ())
  ∧ Settles store (store.databaseWith store.madeTable) (store.initialise rivals).1
  := by
  have hvisible := h.visible
  rw [initialise, madeTable, table?]
  split
  · next hopen =>
    rw [halone hopen, commit, hvisible]
    simp only [Bool.and_false, Bool.false_eq_true, if_false, Bool.or_false]
    cases hdatabase : store.database with
    | foreign => exact ⟨rfl, rfl, hdatabase.symm, isSettled_of_transaction rfl⟩
    | empty => exact ⟨rfl, rfl, rfl, isSettled_of_transaction rfl⟩
    | table table => exact ⟨rfl, rfl, rfl, isSettled_of_transaction rfl⟩
  · exact ⟨rfl, rfl, rfl, h⟩

theorem insert_missing_alone (store : Store) (hbegun : store.transaction ≠ none) (table : Table)
    (results name createdAt : String) :
  ∃ after, store.insert {} table none results name createdAt = (after, .error .missingSource)
    ∧ Keeps {} store after
  := by
  obtain ⟨after, hafter, hkeeps, -⟩ := store.exists_keeps_writes {} hbegun (.inr rfl)
  rw [insert, hafter]
  exact ⟨after, by simp, hkeeps⟩

/-- A row is inserted and committed at once in a store that is alone. -/
theorem insert_alone (store : Store) (hbegun : store.transaction ≠ none) (table : Table)
    (source results name createdAt : String) :
  ∃ inserted,
    store.insert {} table (some source) results name createdAt
      = (inserted, .ok (table.insert source results name createdAt))
    ∧ inserted.commit {}
      = ({ store with
          database := .table (table.insert source results name createdAt)
          transaction := none }, .ok ())
  := by
  obtain ⟨database, isOpen, seen, transaction⟩ := store
  cases transaction with
  | none => cases hbegun rfl
  | some transaction =>
    obtain ⟨lock, changed⟩ := transaction
    cases lock <;> exact ⟨_, rfl, rfl⟩

/-- Storing an analysis in a store that is alone while it is open. -/
theorem save_alone (h : store.IsSettled) (halone : store.isOpen = true → rivals = {})
    (source : SourceText) (results : String) (user : RawText) (createdAt : String) :
  (store.save rivals source results user createdAt).2
    = (store.savedTable source results user createdAt).map Table.lastId
  ∧ Settles store (store.databaseWith (store.savedTable source results user createdAt))
    (store.save rivals source results user createdAt).1
  := by
  obtain ⟨seen, hprepare⟩ := prepare_alone h halone
  rw [save, savedTable, hprepare]
  cases htable : store.table? with
  | error fault => exact ⟨rfl, rfl, rfl, h.committed, h.closed⟩
  | ok table =>
    obtain ⟨hopen, -⟩ := table?_eq_ok_iff.mp htable
    obtain rfl := halone hopen
    have hkeeps : Keeps {} store { store with seen }.begin :=
      (keeps_seen {} store seen).trans (keeps_begin {} _)
    simp only
    cases source.bind user with
    | error error => exact ⟨rfl, h.settles hkeeps hopen⟩
    | ok stored =>
      cases user.encode with
      | error message => exact ⟨rfl, h.settles hkeeps hopen⟩
      | ok name =>
        cases stored with
        | none =>
          obtain ⟨after, hinsert, hafter⟩ := insert_missing_alone { store with seen }.begin
            (Option.some_ne_none _) table results name createdAt
          simp only [hinsert]
          exact ⟨rfl, h.settles (hkeeps.trans hafter) hopen⟩
        | some stored =>
          obtain ⟨inserted, hinsert, hcommit⟩ := insert_alone { store with seen }.begin
            (Option.some_ne_none _) table stored results name createdAt
          simp only [hinsert, hcommit]
          exact ⟨rfl, rfl, rfl, isSettled_of_transaction rfl⟩

/-- Listing a history in a store that is alone while it is open. -/
theorem history_alone (h : store.IsSettled) (halone : store.isOpen = true → rivals = {})
    (user : RawText) :
  (store.history rivals user).2 = store.records user
  ∧ Settles store store.database (store.history rivals user).1
  := by
  constructor
  · obtain ⟨seen, hprepare⟩ := prepare_alone h halone
    rw [history, records, hprepare]
    cases htable : store.table? with
    | error fault => rfl
    | ok table =>
      obtain ⟨hopen, -⟩ := table?_eq_ok_iff.mp htable
      obtain rfl := halone hopen
      cases user.encode with
      | error message => rfl
      | ok name => simp
  · by_cases hopen : store.isOpen = true
    · apply h.settles (keeps_history rivals store user) hopen
    · rw [history, prepare, if_neg hopen]
      exact ⟨rfl, rfl, h⟩

end

/-! ### Texts and users with an encoding -/

section
variable {store : Store}

/-- A text is stored for a user in the table that is committed. -/
theorem savedTable_ofString {table : Table} (htable : store.table? = .ok table)
    (source results name createdAt : String) :
  store.savedTable (.text (.ofString source)) results (.ofString name) createdAt
    = .ok (table.insert source results name createdAt)
  := by
  rw [savedTable, htable, SourceText.bind, RawText.encode_ofString, RawText.encode_ofString]
  rfl

/-- A text is not stored for a user without an encoding. -/
theorem savedTable_of_unencodable {table : Table} (htable : store.table? = .ok table)
    {user : RawText} (huser : ∀ name : String, user ≠ .ofString name)
    (source results createdAt : String) :
  store.savedTable (.text (.ofString source)) results user createdAt
    = .error (.unencodable user.encodeFault)
  := by
  obtain ⟨name, hname⟩ | ⟨hencode, -⟩ := user.encode_cases
  · cases huser name hname
  · rw [savedTable, htable, SourceText.bind, RawText.encode_ofString, hencode]
    rfl

/-- A text or a user without an encoding is not stored. -/
theorem exists_savedTable_eq_error {source user : RawText}
    (h : (∀ text : String, source ≠ .ofString text) ∨ ∀ name : String, user ≠ .ofString name)
    (results createdAt : String) (store : Store) :
  ∃ error, store.savedTable (.text source) results user createdAt = .error error
  := by
  rw [savedTable]
  cases store.table? with
  | error fault => exact ⟨_, rfl⟩
  | ok table =>
    obtain ⟨text, rfl⟩ | ⟨hsource, -⟩ := source.encode_cases
    · obtain ⟨name, rfl⟩ | ⟨huser, -⟩ := user.encode_cases
      · obtain hne | hne := h
        · cases hne text rfl
        · cases hne name rfl
      · simp only [SourceText.bind, RawText.encode_ofString, huser, Except.map, Except.mapError]
        exact ⟨_, rfl⟩
    · simp only [SourceText.bind, hsource, Except.map, Except.mapError]
      exact ⟨_, rfl⟩

/-- What storing an analysis gives, with the table that it works on. -/
theorem savedTable_cases (source : RawText) (results : String) (user : RawText)
    (createdAt : String) (store : Store) :
  (∃ error, store.savedTable (.text source) results user createdAt = .error error)
  ∨ ∃ table text name, store.table? = .ok table ∧ source = .ofString text ∧ user = .ofString name
    ∧ store.savedTable (.text source) results user createdAt
      = .ok (table.insert text results name createdAt)
  := by
  cases htable : store.table? with
  | error fault =>
    left
    rw [savedTable, htable]
    exact ⟨_, rfl⟩
  | ok table =>
    obtain ⟨text, rfl⟩ | ⟨-, hsource⟩ := source.encode_cases
    · obtain ⟨name, rfl⟩ | ⟨-, huser⟩ := user.encode_cases
      · exact .inr ⟨table, text, name, rfl, rfl, rfl, savedTable_ofString htable ..⟩
      · exact .inl (exists_savedTable_eq_error (.inr huser) ..)
    · exact .inl (exists_savedTable_eq_error (.inl hsource) ..)

/-- The records of a user in a table of saves that can be read back. -/
theorem records_ofSaves {saves : List Save} (htable : store.table? = .ok (Table.ofSaves saves))
    (hreadable : ∀ save ∈ saves, save.IsReadable) (name : String) :
  store.records (.ofString name)
    = .ok ((Table.listed name saves).map fun (save, id) => save.record id)
  := by
  rw [records, htable, RawText.encode_ofString]
  simp only [Table.history_ofSaves hreadable]
  rfl

end

/-! ### Actions -/

/-- Whether a store is open after an action. -/
def isOpenAfter (isOpen : Bool) : StoreAction → Bool
  | .close | .useOnce => false
  | .initialise | .save _ _ _ | .list _ => isOpen

/-- The database after an action on a store that is alone. -/
def databaseAfter (now : String) (store : Store) : StoreAction → Database
  | .initialise => store.databaseWith store.madeTable
  | .save source findings user => store.databaseWith (store.savedTable (.ofJson source)
      (resultsText (findings.map Finding.toJson)) user.asName now)
  | .close | .useOnce | .list _ => store.database

/-- What an action on a store that is alone answers. -/
def answerTo (now : String) (store : Store) : StoreAction → SessionAnswer
  | .initialise => .ofResult (fun _ => .done) store.madeTable
  | .close => .done
  | .useOnce => .usedOnce
  | .save source findings user => .ofResult (fun table => .saved table.lastId)
      (store.savedTable (.ofJson source) (resultsText (findings.map Finding.toJson)) user.asName
        now)
  | .list user => .ofResult .listed (store.records user.asName)

theorem ofResult_map {α β : Type} (answer : β → SessionAnswer) (f : α → β)
    (result : Except StoreError α) :
  SessionAnswer.ofResult answer (result.map f)
    = .ofResult (fun found => answer (f found)) result
  := by cases result <;> rfl

/-- An action on a store that is alone while it is open. -/
theorem run_alone {rivals : Rivals} {store : Store} (h : store.IsSettled)
    (halone : store.isOpen = true → rivals = {}) (now : String) (action : StoreAction) :
  (action.run rivals now store).2 = store.answerTo now action
  ∧ (action.run rivals now store).1.database = store.databaseAfter now action
  ∧ (action.run rivals now store).1.isOpen = isOpenAfter store.isOpen action
  ∧ (action.run rivals now store).1.IsSettled
  := by
  cases action with
  | initialise =>
    obtain ⟨hresult, hsettles⟩ := initialise_alone h halone
    refine ⟨?_, hsettles.database, hsettles.isOpen, hsettles.settled⟩
    simp only [StoreAction.run, answerTo, hresult, ofResult_map]
  | close => exact ⟨rfl, rfl, rfl, isSettled_of_transaction rfl⟩
  | useOnce => exact ⟨rfl, rfl, rfl, isSettled_of_transaction rfl⟩
  | save source findings user =>
    obtain ⟨hresult, hsettles⟩ := save_alone h halone (.ofJson source)
      (resultsText (findings.map Finding.toJson)) user.asName now
    refine ⟨?_, hsettles.database, hsettles.isOpen, hsettles.settled⟩
    simp only [StoreAction.run, answerTo, hresult, ofResult_map]
  | list user =>
    obtain ⟨hresult, hsettles⟩ := history_alone h halone user.asName
    refine ⟨?_, hsettles.database, hsettles.isOpen, hsettles.settled⟩
    simp only [StoreAction.run, answerTo, hresult]

end Store

namespace Session

/-! ### Sessions -/

/-- No file is open in two stores. -/
def IsSolo (session : Session) : Prop :=
  session.connections.Pairwise fun a b =>
    a.place = b.place → a.place = none ∨ a.store.isOpen = false ∨ b.store.isOpen = false

instance (session : Session) : Decidable session.IsSolo :=
  inferInstanceAs (Decidable (List.Pairwise _ _))

/-- Nothing waits to be committed in any store. -/
def IsSettled (session : Session) : Prop :=
  ∀ connection ∈ session.connections, connection.store.IsSettled

section
variable {session : Session} {number : Nat} {connection : Connection}

theorem isOpen_storeOf (session : Session) (connection : Connection) :
  (session.storeOf connection).isOpen = connection.store.isOpen
  := by
  rw [storeOf]
  split <;> rfl

theorem IsSettled.storeOf (h : session.IsSettled)
    (hconnection : session.connections[number]? = some connection) :
  (session.storeOf connection).IsSettled
  := by
  have hstore := h connection (List.mem_of_getElem? hconnection)
  rw [Session.storeOf]
  split
  · apply hstore
  · exact ⟨hstore.committed, hstore.closed⟩

/-- Another store on the file of an open store is closed. -/
theorem IsSolo.isOpen_eq_false (hsolo : session.IsSolo)
    (hconnection : session.connections[number]? = some connection)
    (hopen : connection.store.isOpen = true) {index : Nat} {other : Connection}
    (hother : session.connections[index]? = some other) (hne : index ≠ number)
    (hplace : other.place = connection.place) (hfile : connection.place ≠ none) :
  other.store.isOpen = false
  := by
  rw [IsSolo, List.pairwise_iff_getElem] at hsolo
  obtain ⟨hnumber, rfl⟩ := List.getElem?_eq_some_iff.mp hconnection
  obtain ⟨hindex, rfl⟩ := List.getElem?_eq_some_iff.mp hother
  obtain hlt | hlt := Nat.lt_or_gt_of_ne hne
  · obtain hnone | hclosed | hclosed := hsolo index number hindex hnumber hlt hplace
    · cases hfile (hplace.symm.trans hnone)
    · apply hclosed
    · rw [hopen] at hclosed
      cases hclosed
  · obtain hnone | hclosed | hclosed := hsolo number index hnumber hindex hlt hplace.symm
    · cases hfile hnone
    · rw [hopen] at hclosed
      cases hclosed
    · apply hclosed

/-- The lock of another store on the same file. -/
theorem mem_otherLocks {lock : Lock} :
  lock ∈ session.otherLocks number connection ↔ ∃ index other,
    session.connections[index]? = some other ∧ index ≠ number ∧ other.place = connection.place
    ∧ connection.place ≠ none ∧ other.store.lock = lock
  := by
  simp only [otherLocks, List.mem_map, List.mem_filter, Prod.exists, List.mem_zipIdx_iff_getElem?,
    Bool.and_eq_true, bne_iff_ne, beq_iff_eq, Option.isSome_iff_ne_none]
  constructor
  · rintro ⟨other, index, ⟨hother, ⟨hne, hfile⟩, hplace⟩, hlock⟩
    rw [hplace] at hfile
    exact ⟨index, other, hother, hne, hplace, hfile, hlock⟩
  · rintro ⟨index, other, hother, hne, hplace, hfile, hlock⟩
    rw [← hplace] at hfile
    exact ⟨other, index, ⟨hother, ⟨hne, hfile⟩, hplace⟩, hlock⟩

/-- An open store has no rivals when no file is open in two stores. -/
theorem IsSolo.rivalsOf (hsolo : session.IsSolo) (hsettled : session.IsSettled)
    (hconnection : session.connections[number]? = some connection)
    (hopen : (session.storeOf connection).isOpen = true) :
  session.rivalsOf number connection = {}
  := by
  have hnone : ∀ test : Lock → Bool, test .none = false →
      (session.otherLocks number connection).any test = false := by
    intro test htest
    rw [List.any_eq_false]
    intro lock hlock
    obtain ⟨index, other, hother, hne, hplace, hfile, rfl⟩ := mem_otherLocks.mp hlock
    rw [isOpen_storeOf] at hopen
    have hclosed := hsolo.isOpen_eq_false hconnection hopen hother hne hplace hfile
    rw [(hsettled other (List.mem_of_getElem? hother)).closed hclosed, htest]
    exact Bool.false_ne_true
  rw [Session.rivalsOf, hnone Lock.reads rfl, hnone Lock.writes rfl, hnone Lock.waits rfl]

/-- An action in a session where no file is open in two stores. -/
theorem act_solo (hsolo : session.IsSolo) (hsettled : session.IsSettled)
    (hconnection : session.connections[number]? = some connection) (action : StoreAction) :
  ∃ store,
    session.act number connection action
      = ({ session with clock := action.clockAfter session.clock }.withStore number connection
          store,
        (session.storeOf connection).answerTo session.clock.now.1 action)
    ∧ store.database = (session.storeOf connection).databaseAfter session.clock.now.1 action
    ∧ store.isOpen = Store.isOpenAfter connection.store.isOpen action
    ∧ store.IsSettled
  := by
  obtain ⟨hanswer, hdatabase, hisOpen, hsettled⟩ :=
    Store.run_alone (hsettled.storeOf hconnection) (hsolo.rivalsOf hsettled hconnection)
      session.clock.now.1 action
  rw [isOpen_storeOf] at hisOpen
  refine ⟨_, ?_, hdatabase, hisOpen, hsettled⟩
  rw [act, ← hanswer]

/-- One step keeps stores settled, if no file is open in two of them. -/
theorem IsSettled.step (hsettled : session.IsSettled) (hsolo : session.IsSolo)
    (step : SessionStep) :
  (session.step step).1.IsSettled
  := by
  cases step with
  | openStore database =>
    rw [Session.step, openStore]
    split
    · apply hsettled
    · split
      · apply hsettled
      · intro connection hconnection
        obtain hold | rfl := List.mem_append.mp hconnection |>.imp_right List.mem_singleton.mp
        · apply hsettled connection hold
        · apply Store.isSettled_of_transaction rfl
  | use number action =>
    rw [Session.step]
    split
    · next connection hconnection =>
      obtain ⟨store, hact, -, -, hstore⟩ := act_solo hsolo hsettled hconnection action
      rw [hact]
      intro other hother
      obtain hold | rfl := List.mem_or_eq_of_mem_set hother
      · apply hsettled other hold
      · apply hstore
    · apply hsettled

end

/-! ### Runs -/

/-- No file is open in two stores at any time of a run. -/
def RunsSolo (session : Session) : List SessionStep → Prop
  | [] => session.IsSolo
  | step :: steps => session.IsSolo ∧ (session.step step).1.RunsSolo steps

/-- Whether no file is open in two stores at any time of a run. -/
def staysSolo (session : Session) : List SessionStep → Bool
  | [] => decide session.IsSolo
  | step :: steps => decide session.IsSolo && (session.step step).1.staysSolo steps

theorem staysSolo_iff {session : Session} {steps : List SessionStep} :
  session.staysSolo steps = true ↔ session.RunsSolo steps
  := by
  induction steps generalizing session with
  | nil => rw [staysSolo, RunsSolo, decide_eq_true_iff]
  | cons step steps ih => rw [staysSolo, RunsSolo, Bool.and_eq_true, decide_eq_true_iff, ih]

instance (session : Session) (steps : List SessionStep) : Decidable (session.RunsSolo steps) :=
  decidable_of_iff _ staysSolo_iff

theorem run_append (session : Session) (steps later : List SessionStep) :
  session.run (steps ++ later) = (session.run steps).run later
  := List.foldl_append

variable {session : Session}

theorem RunsSolo.isSolo {steps : List SessionStep} (h : session.RunsSolo steps) :
  session.IsSolo
  := by
  cases steps with
  | nil => apply h
  | cons step steps => apply h.1

/-- A run is solo if and only if it is in its two parts. -/
theorem runsSolo_append {steps later : List SessionStep} :
  session.RunsSolo (steps ++ later) ↔ session.RunsSolo steps ∧ (session.run steps).RunsSolo later
  := by
  induction steps generalizing session with
  | nil =>
    constructor
    · intro h
      exact ⟨h.isSolo, h⟩
    · rintro ⟨-, h⟩
      apply h
  | cons step steps ih =>
    rw [List.cons_append, RunsSolo, RunsSolo, ih, and_assoc]
    rfl

theorem RunsSolo.run {steps : List SessionStep} (h : session.RunsSolo steps) :
  (session.run steps).IsSolo
  := by
  rw [← List.append_nil steps, runsSolo_append] at h
  apply h.2

/-- While no file is open in two stores, nothing waits to be committed. -/
theorem IsSettled.run (hsettled : session.IsSettled) {steps : List SessionStep}
    (hsolo : session.RunsSolo steps) :
  (session.run steps).IsSettled
  := by
  induction steps generalizing session with
  | nil => apply hsettled
  | cons step steps ih => apply ih (hsettled.step hsolo.1 step) hsolo.2

theorem isSettled_of_connections (h : session.connections = []) : session.IsSettled := by
  intro connection hconnection
  rw [h] at hconnection
  cases hconnection

/-- A session in an empty folder; its clock runs backwards. -/
def inEmptyFolder : Session where
  tree := .directory []
  current := []
  clock := { shows := fun reading => if reading = 1 then "b" else "a" }
  directoryLimit := 900

end Session

end ContractLint
