import ContractLint.Command.Run
import ContractLint.Proofs.History.Alone
import ContractLint.Proofs.History.Files

/-!
# Analyses that are stored

A run that is to store its analyses opens a store, makes its table and stores one analysis after the
other; the first of these steps that fails ends the storing.  A refusal is passed over.  What breaks
a run off is a path that cannot be opened for another reason, or a user without an encoding.
-/

namespace ContractLint

/-! ### Taking findings apart -/

/-- The findings of an analysis have the path of the file, and can be stored and read back as they
are. -/
structure FileAnalysis.IsSound (analysis : FileAnalysis) : Prop where
  /-- The findings have the path of the file. -/
  path : ∀ finding ∈ analysis.findings, finding.location.path = some analysis.path
  /-- The findings have identifiers. -/
  ruleId : ∀ finding ∈ analysis.findings, finding.ruleId ≠ ""
  /-- The findings have no empty snippets. -/
  snippet : ∀ finding ∈ analysis.findings, finding.location.snippet ≠ some ""

namespace FileAnalysis

variable {analysis : FileAnalysis}

theorem IsSound.filter_own (h : analysis.IsSound) :
  analysis.findings.filter (·.location.path == some analysis.path) = analysis.findings
  := by
  rw [List.filter_eq_self]
  intro finding hfinding
  rw [h.path finding hfinding, beq_self_eq_true]

theorem IsSound.filter_other (h : analysis.IsSound) {path : Path} (hpath : analysis.path ≠ path) :
  analysis.findings.filter (·.location.path == some path) = []
  := by
  rw [List.filter_eq_nil_iff]
  intro finding hfinding
  rw [h.path finding hfinding, beq_iff_eq, Option.some.injEq]
  apply hpath

/-- The findings with the path of a file are exactly those of its analysis, when no other file has
that path. -/
theorem filter_findings {analyses : List FileAnalysis}
    (hsound : ∀ analysis ∈ analyses, analysis.IsSound) (hpaths : (analyses.map path).Nodup)
    (h : analysis ∈ analyses) :
  (analyses.flatMap findings).filter (·.location.path == some analysis.path) = analysis.findings
  := by
  rw [List.filter_flatMap]
  induction analyses with
  | nil => cases h
  | cons first rest ih =>
    rw [List.forall_mem_cons] at hsound
    rw [List.map_cons, List.nodup_cons] at hpaths
    rw [List.flatMap_cons]
    obtain rfl | hrest := List.mem_cons.mp h
    · have hothers : (rest.flatMap fun other =>
          other.findings.filter (·.location.path == some analysis.path)) = [] := by
        rw [List.flatMap_eq_nil_iff]
        intro other hother
        apply (hsound.2 other hother).filter_other
        intro hsame
        apply hpaths.1
        rw [← hsame]
        apply List.mem_map_of_mem hother
      rw [hsound.1.filter_own, hothers, List.append_nil]
    · have hne : first.path ≠ analysis.path := by
        intro hsame
        apply hpaths.1
        rw [hsame]
        apply List.mem_map_of_mem hrest
      rw [hsound.1.filter_other hne, ih hsound.2 hpaths.2 hrest, List.nil_append]

/-- The row in which an analysis is stored is read as the analysis. -/
theorem IsSound.recordOf_row (h : analysis.IsSound) (id : Nat) (user createdAt : String) :
  Table.recordOf (Save.row id ⟨String.ofList analysis.source, analysis.findings, user, createdAt⟩)
    = .ok ⟨id, String.ofList analysis.source, analysis.findings, user, createdAt⟩
  := by
  have hreadBack : analysis.findings.map Finding.readBack = analysis.findings := by
    nth_rewrite 2 [← List.map_id analysis.findings]
    apply List.map_congr_left
    intro finding hfinding
    apply Finding.readBack_eq_self finding (h.snippet finding hfinding)
  have hreadable : Save.IsReadable
      ⟨String.ofList analysis.source, analysis.findings, user, createdAt⟩ := h.ruleId
  rw [Table.recordOf_row hreadable, Save.record, hreadBack]

/-- The records of analyses that are stored for a user one after the other, from a number on and
with the times that a clock shows. -/
def records (user : String) : Clock → Nat → List FileAnalysis → List Record
  | _, _, [] => []
  | clock, id, analysis :: rest =>
    ⟨id, String.ofList analysis.source, analysis.findings, user, clock.now.1⟩
      :: records user clock.now.2 (id + 1) rest

/-- The step that stores an analysis for a user. -/
def savingStep (user : RawText) (analysis : FileAnalysis) : SessionStep :=
  .use 0 (.save (.string (.ofText analysis.source)) analysis.findings (.string user))

end FileAnalysis

/-- Analyses of different files are stored each with its own findings. -/
theorem savingSteps_eq {analyses : List FileAnalysis}
    (hsound : ∀ analysis ∈ analyses, analysis.IsSound)
    (hpaths : (analyses.map FileAnalysis.path).Nodup) (user : RawText) :
  savingSteps user analyses = analyses.map (FileAnalysis.savingStep user)
  := by
  apply List.map_congr_left
  intro analysis hanalysis
  rw [FileAnalysis.filter_findings hsound hpaths hanalysis, FileAnalysis.savingStep]

/-! ### Sessions with one store -/

/-- A session has one store, which is at rest and holds a table. -/
structure Session.Holds (session : Session) (connection : Connection) (table : Table) : Prop where
  /-- There is no other store. -/
  connections : session.connections = [connection]
  /-- Nothing waits to be committed. -/
  settled : connection.store.IsSettled
  /-- A database that is not kept in memory has a file. -/
  file : ∀ place, connection.place = some place →
    ∃ content, session.tree.get? place = some (.file content)
  /-- The store is open and holds the table. -/
  table : (session.storeOf connection).table? = .ok table

/-- A text names a user as it is. -/
@[simp] theorem Json.asName_string (text : RawText) :
  (.string text : Json RawText).asName = text
  := rfl

namespace Session

variable {session : Session} {connection : Connection} {table : Table}

/-- A store that is the only one of a session is alone. -/
theorem isSolo_of_singleton (h : session.connections = [connection]) : session.IsSolo := by
  rw [IsSolo, h]
  apply List.pairwise_singleton

theorem isSettled_of_singleton (h : session.connections = [connection])
    (hsettled : connection.store.IsSettled) :
  session.IsSettled
  := by
  rw [IsSettled, h, List.forall_mem_singleton]
  apply hsettled

/-- The only store of a session holds the table that it was given. -/
theorem holds_withStore (hconnections : session.connections = [connection])
    (hfile : ∀ place, connection.place = some place →
      ∃ content, session.tree.get? place = some (.file content))
    {store : Store} (hsettled : store.IsSettled) (htable : store.table? = .ok table)
    (clock : Clock) :
  ({ session with clock }.withStore 0 connection store).Holds { connection with store } table
  := by
  obtain ⟨hopen, hdatabase⟩ := Store.table?_eq_ok_iff.mp htable
  refine ⟨?_, hsettled, ?_, ?_⟩
  · rw [withStore, hconnections]
    rfl
  · intro place hplace
    obtain ⟨content, hcontent⟩ := hfile place hplace
    obtain ⟨-, hfiles, -⟩ := FileTree.writeDatabase_spec hcontent (.inl ⟨table, hdatabase⟩)
    rw [withStore, hplace]
    apply hfiles place content hcontent
  · cases hplace : connection.place with
    | none => simp only [storeOf, htable]
    | some place =>
      obtain ⟨content, hcontent⟩ := hfile place hplace
      obtain ⟨-, -, hwritten, -⟩ := FileTree.writeDatabase_spec hcontent (.inl ⟨table, hdatabase⟩)
      apply Store.table?_eq_ok_iff.mpr
      simp only [storeOf, withStore, hplace]
      exact ⟨hopen, hwritten.trans hdatabase⟩

/-- The file of a store holds its table. -/
theorem Holds.databaseAt (h : session.Holds connection table) {place : Place}
    (hplace : connection.place = some place) :
  session.tree.databaseAt (some place) = .table table
  := by
  obtain ⟨-, hdatabase⟩ := Store.table?_eq_ok_iff.mp h.table
  simpa only [storeOf, hplace] using hdatabase

/-- What an action answers and leaves in the only store of a session. -/
theorem step_of_singleton (hconnections : session.connections = [connection])
    (hsettled : connection.store.IsSettled) (action : StoreAction) :
  ∃ store,
    session.step (.use 0 action)
      = ({ session with clock := action.clockAfter session.clock }.withStore 0 connection store,
        (session.storeOf connection).answerTo session.clock.now.1 action)
    ∧ store.database = (session.storeOf connection).databaseAfter session.clock.now.1 action
    ∧ store.isOpen = Store.isOpenAfter connection.store.isOpen action
    ∧ store.IsSettled
  := by
  have hconnection : session.connections[0]? = some connection := by
    rw [hconnections]
    rfl
  rw [step, hconnection]
  apply act_solo (isSolo_of_singleton hconnections)
    (isSettled_of_singleton hconnections hsettled) hconnection

/-! ### Storing -/

/-- A text that is stored in the only store of a session is there as a row. -/
theorem Holds.save (h : session.Holds connection table) (source name : String)
    (findings : List Finding) :
  ∃ next connection', session.step
      (.use 0 (.save (.string (.ofString source)) findings (.string (.ofString name))))
      = (next, .saved (table.lastId + 1))
    ∧ next.Holds connection' (table.insert source (resultsText (findings.map Finding.toJson)) name
      session.clock.now.1)
    ∧ connection'.place = connection.place ∧ next.clock = session.clock.now.2
  := by
  obtain ⟨store, hstep, hdatabase, hisOpen, hsettled⟩ := step_of_singleton h.connections h.settled
    (.save (.string (.ofString source)) findings (.string (.ofString name)))
  obtain ⟨hopen, -⟩ := Store.table?_eq_ok_iff.mp h.table
  rw [isOpen_storeOf] at hopen
  have hsaved := Store.savedTable_ofString h.table source
    (resultsText (findings.map Finding.toJson)) name session.clock.now.1
  rw [Store.databaseAfter, SourceText.ofJson, Json.asName_string, hsaved] at hdatabase
  rw [Store.answerTo, SourceText.ofJson, Json.asName_string, hsaved] at hstep
  have htable := Store.table?_eq_ok_iff.mpr ⟨hisOpen.trans hopen, hdatabase⟩
  exact ⟨_, _, hstep, holds_withStore h.connections h.file hsettled htable _, rfl, rfl⟩

/-- A text is not stored for a user without an encoding. -/
theorem Holds.save_of_unencodable (h : session.Holds connection table) (source : String)
    (findings : List Finding) {user : RawText} (huser : ∀ name : String, user ≠ .ofString name) :
  ∃ next, session.step (.use 0 (.save (.string (.ofString source)) findings (.string user)))
    = (next, .failed (.store (.unencodable user.encodeFault)))
  := by
  obtain ⟨store, hstep, -⟩ := step_of_singleton h.connections h.settled
    (.save (.string (.ofString source)) findings (.string user))
  rw [Store.answerTo, SourceText.ofJson, Json.asName_string,
    Store.savedTable_of_unencodable h.table huser] at hstep
  exact ⟨_, hstep⟩

theorem attempt_append (session : Session) (steps later : List SessionStep) :
  session.attempt (steps ++ later) = match session.attempt steps with
    | (session, some error) => (session, some error)
    | (session, none) => session.attempt later
  := by
  induction steps generalizing session with
  | nil => rfl
  | cons step steps ih =>
    rw [List.cons_append, attempt, attempt]
    split
    · rfl
    · apply ih

/-- Analyses are stored one after the other: each gives one row, which is read as the record of the
analysis. -/
theorem Holds.attempt (h : session.Holds connection table) (name : String)
    {analyses : List FileAnalysis} (hsound : ∀ analysis ∈ analyses, analysis.IsSound) :
  ∃ final connection' table' added,
    session.attempt (analyses.map (FileAnalysis.savingStep (.ofString name))) = (final, none)
    ∧ final.Holds connection' table' ∧ connection'.place = connection.place
    ∧ table'.rows = table.rows ++ added
    ∧ Table.recordsOf added
      = .ok (FileAnalysis.records name session.clock (table.lastId + 1) analyses)
  := by
  induction analyses generalizing session connection table with
  | nil => exact ⟨session, connection, table, [], rfl, h, rfl, (List.append_nil _).symm, rfl⟩
  | cons analysis rest ih =>
    rw [List.forall_mem_cons] at hsound
    obtain ⟨next, connection', hstep, hnext, hplace, hclock⟩ :=
      h.save (String.ofList analysis.source) name analysis.findings
    obtain ⟨final, connection'', table', added, hattempt, hfinal, hplace', hrows, hadded⟩ :=
      ih hnext hsound.2
    have hfirst : session.step (analysis.savingStep (.ofString name))
        = (next, .saved (table.lastId + 1)) := by
      rw [← hstep, RawText.ofString_ofList, FileAnalysis.savingStep]
    let save : Save := ⟨String.ofList analysis.source, analysis.findings, name, session.clock.now.1⟩
    refine ⟨final, connection'', table', save.row (table.lastId + 1) :: added, ?_, hfinal,
      hplace'.trans hplace, ?_, ?_⟩
    · rw [List.map_cons, Session.attempt, hfirst]
      apply hattempt
    · rw [hrows, List.append_cons]
      rfl
    · rw [hclock] at hadded
      rw [Table.recordsOf, hsound.1.recordOf_row, hadded]
      rfl

end Session

/-! ### Opening -/

/-- The place of the file of a database; there is none for a database that is kept in memory. -/
def FileTree.databasePlace (tree : FileTree) (current : Place) (database : String) :
    Option Place :=
  if database = ":memory:" ∨ database = "" then none
  else some (Tree.canonical tree current database).place

/-- The table of a database, which is empty if there is none yet. -/
def Database.heldTable : Database → Table
  | .table held => held
  | .empty | .foreign => {}

/-- The table of a new store, if what is there is a database. -/
theorem Store.madeTable_eq {store : Store} (h : store.isOpen = true) :
  store.madeTable = if store.database = .foreign then .error (.cannotInitialise .notDatabase)
    else .ok store.database.heldTable
  := by
  rw [Store.madeTable, Store.table?, if_pos h]
  cases store.database <;> rfl

namespace Session

variable {session : Session} (hnone : session.connections = [])
include hnone

/-- The first store of a session has the place of its database, and holds what was there. -/
theorem openStore_first (database : String) :
  (∃ next fault, session.openStore database = (next, .failed (.cannotOpen database fault)))
  ∨ ∃ next connection, session.openStore database = (next, .done)
    ∧ next.connections = [connection] ∧ next.clock = session.clock
    ∧ connection.place = session.tree.databasePlace session.current database
    ∧ connection.store = {}
    ∧ (∀ place, connection.place = some place →
      ∃ content, next.tree.get? place = some (.file content))
    ∧ (next.storeOf connection).database = session.tree.databaseAt connection.place
  := by
  rw [openStore]
  cases hparents : session.tree.makeParent session.current session.directoryLimit database with
  | error fault => exact .inl ⟨_, fault, rfl⟩
  | ok parents =>
    have hkeeps := FileTree.Keeps.makeParent hparents
    simp only
    cases hopened : parents.openDatabase session.current database with
    | error fault => exact .inl ⟨_, fault, rfl⟩
    | ok opened =>
      obtain ⟨tree, place⟩ := opened
      obtain ⟨hlater, hplace⟩ := FileTree.openDatabase_spec hopened
      have hdatabase := (hkeeps.trans hlater).databases place
      rw [hkeeps.links.canonical_eq] at hplace
      refine .inr ⟨_, ⟨place, {}⟩, rfl, by rw [hnone]; rfl, rfl, ?_, rfl, ?_, ?_⟩
      · rw [FileTree.databasePlace]
        split at hplace
        · next hmemory => rw [if_pos hmemory, hplace]
        · next hfile => rw [if_neg hfile, hplace.1]
      · rintro there rfl
        split at hplace
        · cases hplace
        · obtain ⟨⟨⟩, hcontent⟩ := hplace
          apply hcontent
      · cases place with
        | none => rfl
        | some place => apply hdatabase

/-- The first store of a session is opened and its table is made, or the path cannot be used, or
what is there is no database. -/
theorem attempt_opening (database : String) :
  (∃ next fault, session.attempt [.openStore database, .use 0 .initialise]
    = (next, some (.cannotOpen database fault)))
  ∨ (∃ next fault, session.attempt [.openStore database, .use 0 .initialise]
    = (next, some (.store (.cannotInitialise fault))))
  ∨ ∃ next connection, session.attempt [.openStore database, .use 0 .initialise] = (next, none)
    ∧ next.Holds connection (session.tree.databaseAt connection.place).heldTable
    ∧ connection.place = session.tree.databasePlace session.current database
    ∧ next.clock = session.clock
  := by
  obtain ⟨next, fault, hopen⟩ | ⟨next, connection, hopen, hconnections, hclock, hplace, hstore,
    hfile, hdatabase⟩ := openStore_first hnone database
  · left
    use next, fault
    rw [attempt, step, hopen]
  · right
    have hsettled : connection.store.IsSettled := by
      rw [hstore]
      apply Store.isSettled_of_transaction rfl
    have hisOpen : (next.storeOf connection).isOpen = true := by
      rw [isOpen_storeOf, hstore]
    obtain ⟨store, hstep, hmade, hopened, hafter⟩ :=
      step_of_singleton hconnections hsettled .initialise
    rw [attempt, step, hopen]
    rw [Store.databaseAfter] at hmade
    rw [Store.answerTo] at hstep
    rw [Store.madeTable_eq hisOpen, hdatabase] at hmade hstep
    simp only [attempt, hstep]
    by_cases hforeign : session.tree.databaseAt connection.place = .foreign
    · left
      rw [if_pos hforeign]
      exact ⟨_, _, rfl⟩
    · right
      rw [if_neg hforeign] at hmade ⊢
      rw [Store.isOpenAfter, hstore] at hopened
      have htable := Store.table?_eq_ok_iff.mpr ⟨hopened, hmade⟩
      exact ⟨_, _, rfl, holds_withStore hconnections hfile hafter htable _, hplace, hclock⟩

end Session

/-! ### Storing analyses -/

namespace World

variable {world : World} {database : Option Path} {analyses : List FileAnalysis}

/-- Why the history cannot be used, if it cannot. -/
def openingError? (world : World) (database : Option Path) : Option SessionError :=
  (world.session.attempt (world.openingSteps database)).2

/-- The place of the history database. -/
def historyPlace (world : World) (database : Option Path) : Option Place :=
  world.tree.databasePlace world.current (world.databaseText database)

/-- The history before a run. -/
def heldHistory (world : World) (database : Option Path) : Table :=
  (world.tree.databaseAt (world.historyPlace database)).heldTable

/-- The session of a run that stores analyses. -/
def savingSession (world : World) (database : Option Path) (user : RawText)
    (analyses : List FileAnalysis) : Session :=
  (world.session.attempt (world.openingSteps database ++ savingSteps user analyses)).1

/-- A history that can be used is opened as it was. -/
theorem exists_holds_of_opened (h : world.openingError? database = none) :
  ∃ session connection, world.session.attempt (world.openingSteps database) = (session, none)
    ∧ session.Holds connection (world.heldHistory database)
    ∧ connection.place = world.historyPlace database ∧ session.clock = world.clock
  := by
  rw [openingError?, openingSteps] at h
  rw [openingSteps]
  have hnone : world.session.connections = [] := rfl
  obtain ⟨next, fault, hfailed⟩ | ⟨next, fault, hfailed⟩ | ⟨next, connection, hopened, hholds,
    hplace, hclock⟩ := Session.attempt_opening hnone (world.databaseText database)
  · rw [hfailed] at h
    cases h
  · rw [hfailed] at h
    cases h
  · rw [hplace] at hholds
    exact ⟨next, connection, hopened, hholds, hplace, hclock⟩

/-- In a history that can be used, analyses of different files are stored for a user with an
encoding: each gives one row, which is read as the record of the analysis. -/
theorem saveAll_of_opened (hsound : ∀ analysis ∈ analyses, analysis.IsSound)
    (hpaths : (analyses.map FileAnalysis.path).Nodup) (h : world.openingError? database = none)
    (name : String) :
  (world.saveAll database (.ofString name) analyses).2 = none
  ∧ ∃ connection table added,
    (world.savingSession database (.ofString name) analyses).Holds connection table
    ∧ connection.place = world.historyPlace database
    ∧ table.rows = (world.heldHistory database).rows ++ added
    ∧ Table.recordsOf added = .ok (FileAnalysis.records name world.clock
      ((world.heldHistory database).lastId + 1) analyses)
  := by
  obtain ⟨session, connection, hopened, hholds, hplace, hclock⟩ := exists_holds_of_opened h
  obtain ⟨final, connection', table, added, hattempt, hfinal, hplace', hrows, hadded⟩ :=
    hholds.attempt name hsound
  rw [saveAll, savingSession, Session.attempt_append, hopened, savingSteps_eq hsound hpaths]
  simp only [hattempt]
  rw [hclock] at hadded
  exact ⟨rfl, connection', table, added, hfinal, hplace'.trans hplace, hrows, hadded⟩

/-- Nothing is stored for a user without an encoding: the first analysis breaks the run off. -/
theorem saveAll_of_unencodable (hsound : ∀ analysis ∈ analyses, analysis.IsSound)
    (hpaths : (analyses.map FileAnalysis.path).Nodup) (h : world.openingError? database = none)
    {user : RawText} (huser : ∀ name : String, user ≠ .ofString name) (hsome : analyses ≠ []) :
  (world.saveAll database user analyses).2 = some (.store (.unencodable user.encodeFault))
  := by
  obtain ⟨session, connection, hopened, hholds, -⟩ := exists_holds_of_opened h
  obtain ⟨analysis, rest, rfl⟩ := List.exists_cons_of_ne_nil hsome
  obtain ⟨next, hstep⟩ :=
    hholds.save_of_unencodable (String.ofList analysis.source) analysis.findings huser
  rw [RawText.ofString_ofList] at hstep
  rw [saveAll, Session.attempt_append, hopened, savingSteps_eq hsound hpaths, List.map_cons]
  simp only [Session.attempt, FileAnalysis.savingStep, hstep]
  rfl

/-- A history that cannot be used breaks a run off, unless it only refuses. -/
theorem saveAll_of_openingError {error : SessionError}
    (h : world.openingError? database = some error) (user : RawText)
    (analyses : List FileAnalysis) :
  (world.saveAll database user analyses).2 = none
    ↔ ∀ text fault, error = .cannotOpen text fault → fault = .refused
  := by
  obtain ⟨session, hattempt⟩ :
      ∃ session, world.session.attempt (world.openingSteps database) = (session, some error) :=
    ⟨_, Prod.ext rfl h⟩
  have hsaved : (world.saveAll database user analyses).2 = Breakdown.ofError? error := by
    rw [saveAll, Session.attempt_append, hattempt]
    rfl
  have hnone : world.session.connections = [] := rfl
  rw [hsaved]
  rw [openingSteps] at hattempt
  obtain ⟨next, fault, hfailed⟩ | ⟨next, fault, hfailed⟩ | ⟨next, connection, hopened, -⟩ :=
    Session.attempt_opening hnone (world.databaseText database)
  · rw [hfailed] at hattempt
    cases hattempt
    cases fault <;> simp [Breakdown.ofError?]
  · rw [hfailed] at hattempt
    cases hattempt
    simp [Breakdown.ofError?, StoreError.isRefusal]
  · rw [hopened] at hattempt
    cases hattempt

/-- Storing the analyses of some files does not break a run off: a history that cannot be opened
only refuses, and if it can be used then all analyses are for a user with an encoding. -/
structure StoresQuietly (world : World) (database : Option Path) (user : RawText)
    (files : List Path) : Prop where
  /-- A history that cannot be opened refuses. -/
  refuses : ∀ text fault, world.openingError? database = some (.cannotOpen text fault) →
    fault = .refused
  /-- Analyses are stored for a user with an encoding. -/
  encodable : world.openingError? database = none →
    files = [] ∨ ∃ name : String, user = .ofString name

theorem saveAll_snd_eq_none_iff (hsound : ∀ analysis ∈ analyses, analysis.IsSound)
    (hpaths : (analyses.map FileAnalysis.path).Nodup) (world : World) (database : Option Path)
    (user : RawText) :
  (world.saveAll database user analyses).2 = none
    ↔ world.StoresQuietly database user (analyses.map FileAnalysis.path)
  := by
  constructor
  · intro hquiet
    constructor
    · intro text fault herror
      apply (saveAll_of_openingError herror user analyses).mp hquiet text fault rfl
    · intro hopened
      by_contra hneither
      rw [not_or, not_exists, List.map_eq_nil_iff] at hneither
      rw [saveAll_of_unencodable hsound hpaths hopened hneither.2 hneither.1] at hquiet
      cases hquiet
  · rintro ⟨hrefuses, hencodable⟩
    cases herror : world.openingError? database with
    | some error =>
      rw [saveAll_of_openingError herror]
      rintro text fault rfl
      apply hrefuses text fault herror
    | none =>
      obtain hempty | ⟨name, rfl⟩ := hencodable herror
      · obtain ⟨session, connection, hopened, -⟩ := exists_holds_of_opened herror
        rw [List.map_eq_nil_iff] at hempty
        rw [saveAll, Session.attempt_append, hopened, hempty]
        rfl
      · apply (saveAll_of_opened hsound hpaths herror name).1

end World

end ContractLint
