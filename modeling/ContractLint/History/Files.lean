import ContractLint.History.Archive
import ContractLint.History.Store
import ContractLint.Text.Utf8
import ContractLint.Tree.Access

/-!
# Contract files and database files

The files of a tree hold octets, or a history database once one was made there.  Contract files
are read as UTF-8.  A database is opened by its path: the directories before it are made, and an
empty file stands for an empty database.
-/

namespace ContractLint

/-- What a file holds. -/
inductive FileContent where
  /-- Octets. -/
  | octets (octets : List Nat)
  /-- A history database. -/
  | database (table : Table)

/-- A tree of contract files and databases. -/
abbrev FileTree := Tree FileContent

/-- A file that could not be read, and why. -/
structure ReadError where
  /-- The path of the file. -/
  path : Path
  /-- Why it could not be read. -/
  cause : AccessError

/-- The text of an error. -/
def ReadError.message (error : ReadError) : String :=
  "Failed to read " ++ toString error.path ++ ": " ++ error.cause.message ++ ": "
    ++ String.ofList (Text.quoted error.path.toText)

/-- Why a database cannot be opened. -/
inductive OpenFault where
  /-- There is no such file, and none can be made. -/
  | refused
  /-- Too many directories would have to be made. -/
  | tooDeep
  /-- The path holds a null character. -/
  | nullCharacter
  deriving DecidableEq, Repr

/-- The text of a fault. -/
def OpenFault.message : OpenFault → String
  | .refused => "unable to open database file"
  | .tooDeep => "maximum recursion depth exceeded"
  | .nullCharacter => "embedded null byte"

namespace FileContent

/-- What a file with some octets holds. -/
def ofOctets (values : List Nat) : FileContent :=
  match Table.ofArchive? (Utf8.decode values) with
  | some table => .database table
  | none => .octets values

/-- The text of a file. -/
def text : FileContent → Text
  | .octets values => Utf8.decodeFile values
  | .database table => table.archive.toList

/-- The database that a file holds. -/
def asDatabase : FileContent → Database
  | .octets [] => .empty
  | .octets _ => .foreign
  | .database table => .table table

end FileContent

namespace FileTree

/-- The text of the file at a path. -/
def readSource (tree : FileTree) (current : Place) (path : Path) : Except ReadError Text :=
  match Tree.read tree current (toString path) with
  | .ok content => .ok content.text
  | .error cause => .error ⟨path, cause⟩

/-- The tree with all directories before a database, unless the database is kept in memory.  No more
directories than `limit` can be made. -/
def makeParent (tree : FileTree) (current : Place) (limit : Nat) (database : String) :
    Except OpenFault FileTree :=
  if database = ":memory:" then .ok tree
  else
    let parent := toString (Path.ofString database).parent
    let start := Tree.startOf current parent
    let names := Tree.namesOf parent
    if parent.toList.contains '\x00' then .error .nullCharacter
    else if limit < Tree.missingNames tree start names then .error .tooDeep
    else
      match Tree.makeDirectories tree start names with
      | .ok (tree, _) => .ok tree
      | .error _ => .error .refused

/-- The place of a database file, which is made if it is missing; no place for a database that is
kept in memory or has no name. -/
def openDatabase (tree : FileTree) (current : Place) (database : String) :
    Except OpenFault (FileTree × Option Place) :=
  if database = ":memory:" || database = "" then .ok (tree, none)
  else if database.toList.contains '\x00' then .error .nullCharacter
  else
    let canonical := Tree.canonical tree current database
    if !canonical.isResolved then .error .refused
    else
      match tree.get? canonical.place with
      | some (.file _) => .ok (tree, some canonical.place)
      | some _ => .error .refused
      | none =>
        if tree.hasDirectory canonical.place.dropLast then
          .ok (Tree.put (.file (.octets [])) canonical.place tree, some canonical.place)
        else .error .refused

/-- The database at a place; a database without a place is empty. -/
def databaseAt (tree : FileTree) (place : Option Place) : Database :=
  match place with
  | none => .empty
  | some place =>
    match tree.get? place with
    | some (.file content) => content.asDatabase
    | _ => .empty

/-- The tree after a database was written to its place. -/
def writeDatabase (tree : FileTree) (place : Option Place) (database : Database) : FileTree :=
  match place, database with
  | some place, .table table => Tree.put (.file (.database table)) place tree
  | _, _ => tree

end FileTree

end ContractLint
