import ContractLint.Analysis
import ContractLint.History.Clock
import ContractLint.History.Files

/-!
# Sessions with histories

A session opens stores, any number of them and also several on one file, and works with them until
they are closed.  What is committed to a file is there for all stores on it, and they are rivals for
its locks.  `Session.step` is one step and `Session.run` a whole run.
-/

namespace ContractLint

/-- A store and where its database is. -/
structure Connection where
  /-- The place of its file, none for a database kept in memory. -/
  place : Option Place
  /-- The store; what the database holds is in the file, if there is one. -/
  store : Store

/-- The state of a session. -/
structure Session where
  /-- The files. -/
  tree : FileTree
  /-- The current directory. -/
  current : Place
  /-- The stores in the order in which they were opened. -/
  connections : List Connection := []
  /-- The clock. -/
  clock : Clock
  /-- How many directories can be made for one database. -/
  directoryLimit : Nat

/-- What can be done with a store. -/
inductive StoreAction where
  /-- Make the table. -/
  | initialise
  /-- Close the store. -/
  | close
  /-- Use the store for the length of a block, which closes it. -/
  | useOnce
  /-- Store the findings of a source for a user. -/
  | save (source : Json RawText) (findings : List Finding) (user : Json RawText)
  /-- List the history of a user. -/
  | list (user : Json RawText)

/-- A step of a session. -/
inductive SessionStep where
  /-- Open a store on the database at a path. -/
  | openStore (database : String)
  /-- Do something with the store that was opened as the one with a number, from zero. -/
  | use (number : Nat) (action : StoreAction)

/-- Why a step fails. -/
inductive SessionError where
  /-- There is no such store. -/
  | noStore
  /-- The database at a path cannot be opened. -/
  | cannotOpen (database : String) (fault : OpenFault)
  /-- The store fails. -/
  | store (error : StoreError)

/-- The text of an error. -/
def SessionError.message : SessionError → RawText
  | .noStore => .ofString "No history database is open"
  | .cannotOpen database fault =>
    .ofString ("Cannot open history database " ++ database ++ ": " ++ fault.message)
  | .store error => error.message

/-- What a step answers. -/
inductive SessionAnswer where
  | done
  | usedOnce
  | saved (id : Nat)
  | listed (records : List Record)
  | failed (error : SessionError)

/-- The answer for the result of an operation on a store. -/
def SessionAnswer.ofResult {α : Type} (answer : α → SessionAnswer) :
    Except StoreError α → SessionAnswer
  | .ok result => answer result
  | .error error => .failed (.store error)

namespace StoreAction

/-- What an action makes of a store at some time, and what it answers. -/
def run (rivals : Rivals) (now : String) (store : Store) : StoreAction → Store × SessionAnswer
  | .initialise =>
    let (store, result) := store.initialise rivals
    (store, .ofResult (fun _ => .done) result)
  | .close => (store.close, .done)
  | .useOnce => (store.close, .usedOnce)
  | .save source findings user =>
    let (store, result) := store.save rivals (.ofJson source)
      (resultsText (findings.map Finding.toJson)) user.asName now
    (store, .ofResult .saved result)
  | .list user =>
    let (store, result) := store.history rivals user.asName
    (store, .ofResult .listed result)

/-- The clock after an action; it is read when an analysis is stored. -/
def clockAfter (clock : Clock) : StoreAction → Clock
  | .save _ _ _ => clock.now.2
  | .initialise | .close | .useOnce | .list _ => clock

end StoreAction

namespace Session

/-- The store of a connection, with what its file holds now. -/
def storeOf (session : Session) (connection : Connection) : Store :=
  match connection.place with
  | none => connection.store
  | some place => { connection.store with database := session.tree.databaseAt (some place) }

/-- The locks of the other stores on the file of the store with a number. -/
def otherLocks (session : Session) (number : Nat) (connection : Connection) : List Lock :=
  (session.connections.zipIdx.filter fun (other, index) =>
    index != number && other.place.isSome && other.place == connection.place).map
      fun (other, _) => other.store.lock

/-- What other stores hold of the file of the store with a number. -/
def rivalsOf (session : Session) (number : Nat) (connection : Connection) : Rivals :=
  let locks := session.otherLocks number connection
  { reading := locks.any Lock.reads
    writing := locks.any Lock.writes
    waiting := locks.any Lock.waits }

/-- The session after the store with a number changed, with its database written to its file. -/
def withStore (session : Session) (number : Nat) (connection : Connection) (store : Store) :
    Session :=
  { session with
    tree := session.tree.writeDatabase connection.place store.database
    connections := session.connections.set number { connection with store } }

/-- Open a store. -/
def openStore (session : Session) (database : String) : Session × SessionAnswer :=
  match session.tree.makeParent session.current session.directoryLimit database with
  | .error fault => (session, .failed (.cannotOpen database fault))
  | .ok tree =>
    match tree.openDatabase session.current database with
    | .error fault => ({ session with tree }, .failed (.cannotOpen database fault))
    | .ok (tree, place) =>
      ({ session with tree, connections := session.connections ++ [⟨place, {}⟩] }, .done)

/-- Do something with the store with a number. -/
def act (session : Session) (number : Nat) (connection : Connection) (action : StoreAction) :
    Session × SessionAnswer :=
  let (store, answer) := action.run (session.rivalsOf number connection) session.clock.now.1
    (session.storeOf connection)
  ({ session with clock := action.clockAfter session.clock }.withStore number connection store,
    answer)

/-- One step. -/
def step (session : Session) : SessionStep → Session × SessionAnswer
  | .openStore database => session.openStore database
  | .use number action =>
    match session.connections[number]? with
    | some connection => session.act number connection action
    | none => (session, .failed .noStore)

/-- The session after some steps. -/
def run (session : Session) (steps : List SessionStep) : Session :=
  steps.foldl (fun session step => (session.step step).1) session

end Session

end ContractLint
