import ContractLint.History.Table

/-!
# The history store

A store is a connection to a database.  The database may hold a history table, may be empty, or may
be a file of another kind, which shows only when it is used.

Storing an analysis begins a transaction, which a commit ends.  A transaction that was begun stays
open when storing fails, and may keep a lock on the database; other stores that are connected to the
same file are refused what the lock forbids.  All operations give the store afterwards, also when
they fail.
-/

namespace ContractLint

/-- What a database holds. -/
inductive Database where
  /-- Nothing yet. -/
  | empty
  /-- A history table. -/
  | table (table : Table)
  /-- Something that is no database. -/
  | foreign
  deriving DecidableEq

/-! ### Errors -/

/-- Why the database refuses an operation. -/
inductive StoreFault where
  | closed
  | notDatabase
  | noTable
  | missingSource
  /-- Another store holds a lock. -/
  | locked
  /-- A value of a kind that cannot be stored. -/
  | unsupportedSource (kind : String)
  deriving DecidableEq, Repr

/-- The text of a fault. -/
def StoreFault.message : StoreFault → String
  | .closed => "Cannot operate on a closed database."
  | .notDatabase => "file is not a database"
  | .noTable => "no such table: analysis_results"
  | .missingSource => "NOT NULL constraint failed: analysis_results.source_code"
  | .locked => "database is locked"
  | .unsupportedSource kind => "Error binding parameter 1: type '" ++ kind ++ "' is not supported"

/-- Why an operation on a store fails. -/
inductive StoreError where
  /-- The table cannot be made. -/
  | cannotInitialise (fault : StoreFault)
  /-- An analysis cannot be stored. -/
  | cannotSave (user : RawText) (fault : StoreFault)
  /-- The history cannot be read. -/
  | cannotRead (user : RawText) (fault : StoreFault)
  /-- A number is too large to be stored. -/
  | oversizedSource
  /-- A text has no encoding. -/
  | unencodable (message : Text)
  /-- A stored analysis cannot be read back. -/
  | unreadable (error : RecordError)

namespace StoreError

/-- The text of an error. -/
def message : StoreError → RawText
  | .cannotInitialise fault => .ofString ("Cannot initialize schema: " ++ fault.message)
  | .cannotSave user fault =>
    .ofString "Cannot save analysis for user " ++ user ++ .ofString (": " ++ fault.message)
  | .cannotRead user fault =>
    .ofString "Cannot read history for user " ++ user ++ .ofString (": " ++ fault.message)
  | .oversizedSource => .ofString "number too large to be stored"
  | .unencodable message => .ofText message
  | .unreadable error => .ofString error.message

/-- Whether an error says that the database refuses the operation. -/
def isRefusal : StoreError → Bool
  | .cannotInitialise _ | .cannotSave _ _ | .cannotRead _ _ => true
  | .oversizedSource | .unencodable _ | .unreadable _ => false

end StoreError

/-! ### Values to be stored -/

/-- The text under which a value is stored as the source of an analysis. -/
inductive SourceText where
  /-- A text. -/
  | text (text : RawText)
  /-- No value. -/
  | missing
  /-- A number too large to be stored. -/
  | oversized
  /-- A value of a kind that cannot be stored. -/
  | unsupported (kind : String)

namespace SourceText

/-- How a value is stored as a source: numbers as their digits, truth values as one and zero. -/
def ofJson : Json RawText → SourceText
  | .string source => .text source
  | .null => .missing
  | .bool value => .text (.ofString (if value then "1" else "0"))
  | .number (.integer n) =>
    let bound : Int := Nat.pow 2 63
    if -bound ≤ n && n < bound then .text (.ofText (Text.ofInt n)) else .oversized
  | .number (.real x) =>
    match x.stored? with
    | some digits => .text (.ofText digits)
    | none => .missing
  | .array _ => .unsupported "list"
  | .object _ => .unsupported "dict"

/-- The text that is stored for a user, none for a missing value. -/
def bind (user : RawText) : SourceText → Except StoreError (Option String)
  | .text source => (source.encode.map some).mapError .unencodable
  | .missing => .ok none
  | .oversized => .error .oversizedSource
  | .unsupported kind => .error (.cannotSave user (.unsupportedSource kind))

end SourceText

/-! ### Transactions -/

/-- What a transaction holds of a file. -/
inductive Lock where
  | none
  /-- It reads. -/
  | shared
  /-- It reads, and will write. -/
  | reserved
  /-- It waits for others to stop reading. -/
  | pending
  deriving DecidableEq, Repr

namespace Lock

/-- Whether a lock keeps others from committing. -/
def reads (lock : Lock) : Bool :=
  lock != .none

/-- Whether a lock keeps others from writing. -/
def writes : Lock → Bool
  | .none | .shared => false
  | .reserved | .pending => true

/-- Whether a lock keeps others from starting to read. -/
def waits (lock : Lock) : Bool :=
  lock == .pending

end Lock

/-- A transaction that was begun. -/
structure Transaction where
  /-- What it holds of the file. -/
  lock : Lock := .none
  /-- The table with the rows that are not committed, if there are any. -/
  changed : Option Table := none
  deriving DecidableEq

/-- What other stores hold of the same file. -/
structure Rivals where
  /-- One of them reads. -/
  reading : Bool := false
  /-- One of them writes. -/
  writing : Bool := false
  /-- One of them waits for others to stop reading. -/
  waiting : Bool := false
  deriving DecidableEq, Repr

/-- A connection to a history database, which may be closed. -/
structure Store where
  /-- What the database holds. -/
  database : Database := .empty
  /-- Whether the store can be used. -/
  isOpen : Bool := true
  /-- Whether there was a table when the store last looked, if it did. -/
  seen : Option Bool := none
  /-- The transaction that is open. -/
  transaction : Option Transaction := none

namespace Store

/-- What the store holds of its file. -/
def lock (store : Store) : Lock :=
  (store.transaction.map (·.lock)).getD .none

/-- What the database holds for the store itself, with the rows that are not committed. -/
def visible (store : Store) : Database :=
  match store.transaction.bind (·.changed) with
  | some table => .table table
  | none => store.database

/-- The table that the store works on, or why there is none. -/
def prepare (rivals : Rivals) (store : Store) : Store × Except StoreFault Table :=
  if store.isOpen then
    match store.visible with
    | .foreign => (store, .error .notDatabase)
    | .empty => ({ store with seen := some false }, .error .noTable)
    | .table table =>
      if rivals.waiting then
        -- the file cannot be looked at, so that what was seen before counts
        match store.seen with
        | none => (store, .error .locked)
        | some false => (store, .error .noTable)
        | some true => (store, .ok table)
      else ({ store with seen := some true }, .ok table)
  else (store, .error .closed)

/-- The store in a transaction. -/
def begin (store : Store) : Store :=
  { store with transaction := some (store.transaction.getD {}) }

/-- The store with a stronger lock, if a transaction is open. -/
def withLock (lock : Lock) (store : Store) : Store :=
  { store with transaction := store.transaction.map fun transaction => { transaction with lock } }

/-- The store with a table that is not committed, if a transaction is open. -/
def withTable (table : Table) (store : Store) : Store :=
  { store with
    transaction := store.transaction.map fun transaction =>
      { transaction with changed := some table } }

/-- Commit the transaction. -/
def commit (rivals : Rivals) (store : Store) : Store × Except StoreFault Unit :=
  if store.lock.writes && rivals.reading then (store.withLock .pending, .error .locked)
  else ({ store with database := store.visible, transaction := none }, .ok ())

/-! ### Operations -/

/-- Make the table; one that is there stays. -/
def initialise (rivals : Rivals) (store : Store) : Store × Except StoreError Unit :=
  if store.isOpen then
    match store.commit rivals with
    | (store, .error fault) => (store, .error (.cannotInitialise fault))
    | (store, .ok ()) =>
      if store.database = .foreign then (store, .error (.cannotInitialise .notDatabase))
      else if rivals.waiting || (store.seen == some false && rivals.writing) then
        (store, .error (.cannotInitialise .locked))
      else
        let database := if store.database = .empty then .table {} else store.database
        ({ store with database, seen := some true }, .ok ())
  else (store, .error (.cannotInitialise .closed))

/-- Insert a row in the transaction that is open. -/
def insert (rivals : Rivals) (table : Table) (source : Option String)
    (results user createdAt : String) (store : Store) : Store × Except StoreFault Table :=
  if !store.lock.writes && rivals.writing then (store, .error .locked)
  else
    let store := if store.lock.writes then store else store.withLock .reserved
    match source with
    | none => (store, .error .missingSource)
    | some source =>
      let table := table.insert source results user createdAt
      (store.withTable table, .ok table)

/-- Store an analysis, and give its number. -/
def save (rivals : Rivals) (source : SourceText) (results : String) (user : RawText)
    (createdAt : String) (store : Store) : Store × Except StoreError Nat :=
  match store.prepare rivals with
  | (store, .error fault) => (store, .error (.cannotSave user fault))
  | (store, .ok table) =>
    let store := store.begin
    match source.bind user, user.encode with
    | .error error, _ => (store, .error error)
    | .ok _, .error message => (store, .error (.unencodable message))
    | .ok source, .ok name =>
      match store.insert rivals table source results name createdAt with
      | (store, .error fault) => (store, .error (.cannotSave user fault))
      | (store, .ok table) =>
        match store.commit rivals with
        | (store, .error fault) => (store, .error (.cannotSave user fault))
        | (store, .ok ()) => (store, .ok table.lastId)

/-- List the records of a user, the newest first. -/
def history (rivals : Rivals) (user : RawText) (store : Store) :
    Store × Except StoreError (List Record) :=
  match store.prepare rivals with
  | (store, .error fault) => (store, .error (.cannotRead user fault))
  | (store, .ok table) =>
    match user.encode with
    | .error message => (store, .error (.unencodable message))
    | .ok name =>
      if !store.lock.reads && rivals.waiting then (store, .error (.cannotRead user .locked))
      else
        let store := if store.lock.reads then store else store.withLock .shared
        (store, (table.history name).mapError .unreadable)

/-- The store after it was closed, which drops what is not committed. -/
def close (store : Store) : Store :=
  { store with isOpen := false, transaction := none }

end Store

end ContractLint
