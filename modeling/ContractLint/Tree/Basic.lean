import ContractLint.Path

/-!
# File trees

A file tree is made of files, symbolic links and directories with named entries.  A location is
the list of names from the root down; `Tree.get?` looks at a location without following links,
and `Tree.put` changes the tree there.
-/

namespace ContractLint

/-- A file tree whose files hold values of type `α`. -/
inductive Tree (α : Type) where
  /-- A file. -/
  | file (content : α)
  /-- A symbolic link to the path written by `target`. -/
  | link (target : String)
  /-- A directory. -/
  | directory (entries : List (String × Tree α))

/-- The names from the root of a tree down. -/
abbrev Place := List String

namespace Tree

variable {α : Type}

instance : Inhabited (Tree α) := ⟨.directory []⟩

/-- The entry with a name. -/
def child? (name : String) : List (String × Tree α) → Option (Tree α)
  | [] => none
  | (other, tree) :: rest => if other = name then some tree else child? name rest

/-- The tree at a place, without following links. -/
def get? : Tree α → Place → Option (Tree α)
  | tree, [] => some tree
  | .directory entries, name :: rest => (child? name entries).bind fun tree => tree.get? rest
  | _, _ :: _ => none

/-- Whether a tree is a directory. -/
def isDirectory : Tree α → Bool
  | .directory _ => true
  | _ => false

/-- Whether there is a directory at a place. -/
def hasDirectory (tree : Tree α) (place : Place) : Bool :=
  (tree.get? place).any isDirectory

/-- The entries with the one of a name changed, or added last if there was none. -/
def change (name : String) (f : Option (Tree α) → Tree α) :
    List (String × Tree α) → List (String × Tree α)
  | [] => [(name, f none)]
  | (other, tree) :: rest =>
    if other = name then (other, f (some tree)) :: rest else (other, tree) :: change name f rest

/-- The tree with another one put at a place.  Missing directories on the way are made; a file or
link on the way stays as it is. -/
def put (new : Tree α) : Place → Tree α → Tree α
  | [], _ => new
  | name :: rest, .directory entries =>
    .directory (change name (fun old => put new rest (old.getD (.directory []))) entries)
  | _ :: _, tree => tree

/-- The path of a place. -/
def pathOf (place : Place) : Path :=
  Path.ofNames .root place

end Tree

end ContractLint
