import ContractLint.Text.Quoted
import ContractLint.Tree.Basic

/-!
# Access to file trees

Paths are resolved against a tree in two ways.  `Tree.follow` walks along a path that must exist,
following at most `linkLimit` links on the way.  `Tree.canonical` gives the place that a path
names whether or not it exists; a link that leads back to itself is left as it stands.
-/

namespace ContractLint

/-- Why a path cannot be used. -/
inductive AccessError where
  | notFound
  | notDirectory
  | isDirectory
  | tooManyLinks
  deriving DecidableEq, Repr

/-- The number and the text of an error. -/
def AccessError.message : AccessError → String
  | .notFound => "[Errno 2] No such file or directory"
  | .notDirectory => "[Errno 20] Not a directory"
  | .isDirectory => "[Errno 21] Is a directory"
  | .tooManyLinks => "[Errno 40] Too many levels of symbolic links"

namespace Tree

variable {α : Type}

/-- The most links that are followed along one path. -/
def linkLimit : Nat := 40

/-- The names that a path text goes through. -/
def namesOf (text : String) : List String :=
  ((text.toList.splitOn '/').map String.ofList).filter fun name => name != "" && name != "."

/-- Where a path text starts, seen from a directory. -/
def startOf (current : Place) (text : String) : Place :=
  if text.toList.head? = some '/' then [] else current

/-! ### Following links -/

/-- The place reached from a directory by a list of names, where `jump` goes on from where a link
leads, and the number of links that may still be followed. -/
def walk (root : Tree α) (links : Nat)
    (jump : Place → List String → Except AccessError (Place × Nat)) (here : Place) :
    List String → Except AccessError (Place × Nat)
  | [] => .ok (here, links)
  | name :: rest =>
    match root.get? here with
    | some (.directory entries) =>
      if name = ".." then walk root links jump here.dropLast rest
      else
        match child? name entries with
        | none => .error .notFound
        | some (.link target) => jump (startOf here target) (namesOf target ++ rest)
        | some _ => walk root links jump (here ++ [name]) rest
    | _ => .error .notDirectory

/-- The place reached from a directory by a list of names, where at most a number of links are
followed, and how many of them are left. -/
def follow (root : Tree α) : Nat → Place → List String → Except AccessError (Place × Nat)
  | 0 => walk root 0 fun _ _ => .error .tooManyLinks
  | links + 1 => walk root (links + 1) (follow root links)

/-- The tree that a path text leads to. -/
def access (root : Tree α) (current : Place) (text : String) : Except AccessError (Tree α) := do
  let (place, _) ← follow root linkLimit (startOf current text) (namesOf text)
  match root.get? place with
  | some tree => .ok tree
  | none => .error .notFound

/-- The content of the file that a path text leads to. -/
def read (root : Tree α) (current : Place) (text : String) : Except AccessError α := do
  match ← access root current text with
  | .file content => .ok content
  | _ => .error .isDirectory

/-! ### Canonical places -/

/-- What is left to do when a place is made canonical. -/
inductive Pending where
  /-- Go to the entry with a name. -/
  | visit (name : String)
  /-- The link at a place is resolved. -/
  | resolved (link : Place)
  deriving DecidableEq

/-- A place and whether it is free of links that lead back to themselves. -/
structure Canonical where
  /-- The place. -/
  place : Place
  /-- Whether all links on the way were resolved. -/
  isResolved : Bool

/-- The place reached by one name without looking at the tree. -/
def descend (here : Place) (name : String) : Place :=
  if name = ".." then here.dropLast else here ++ [name]

/-- The names that are still to be visited. -/
def pendingNames (pending : List Pending) : List String :=
  pending.filterMap fun
    | .visit name => some name
    | .resolved _ => none

/-- The place that is named when a link is left as it stands. -/
def unresolved (link : Place) (pending : List Pending) : Canonical :=
  ⟨(pendingNames pending).foldl descend link, false⟩

/-- The canonical place after the pending steps, where `jump` goes on at a link with its target and
what is still pending. -/
def canonicalWalk (root : Tree α) (jump : Place → String → List Pending → Canonical)
    (here : Place) : List Pending → Canonical
  | [] => ⟨here, true⟩
  | .resolved _ :: rest => canonicalWalk root jump here rest
  | .visit name :: rest =>
    if name = ".." then canonicalWalk root jump here.dropLast rest
    else
      match root.get? (here ++ [name]) with
      | some (.link target) => jump (here ++ [name]) target rest
      | _ => canonicalWalk root jump (here ++ [name]) rest

/-- The canonical place after the pending steps, where at most a number of links are resolved. -/
def canonicalFrom (root : Tree α) : Nat → Place → List Pending → Canonical
  | 0 => canonicalWalk root fun link _ rest => unresolved link rest
  | links + 1 => canonicalWalk root fun link target rest =>
    if rest.contains (.resolved link) then unresolved link rest
    else
      canonicalFrom root links (startOf link.dropLast target)
        ((namesOf target).map .visit ++ .resolved link :: rest)

/-- The canonical place that a path text names. -/
def canonical (root : Tree α) (current : Place) (text : String) : Canonical :=
  canonicalFrom root (linkLimit * linkLimit) (startOf current text)
    ((namesOf text).map .visit)

/-! ### Making directories -/

/-- The number of names from the first one on that leads nowhere yet. -/
def missingNames (root : Tree α) (here : Place) : List String → Nat
  | [] => 0
  | name :: rest =>
    if name = ".." then missingNames root here.dropLast rest
    else
      match root.get? (here ++ [name]) with
      | none => rest.length + 1
      | some _ =>
        match follow root linkLimit here [name] with
        | .error _ => 0
        | .ok (place, _) => missingNames root place rest

/-- The tree with all directories along the names, and the place they lead to. -/
def makeDirectories (root : Tree α) (here : Place) :
    List String → Except AccessError (Tree α × Place)
  | [] => if root.hasDirectory here then .ok (root, here) else .error .notDirectory
  | name :: rest =>
    if name = ".." then makeDirectories root here.dropLast rest
    else
      match root.get? (here ++ [name]) with
      | none => makeDirectories (put (.directory []) (here ++ [name]) root) (here ++ [name]) rest
      | some _ =>
        match follow root linkLimit here [name] with
        | .error error => .error error
        | .ok (place, _) =>
          if root.hasDirectory place then makeDirectories root place rest
          else .error .notDirectory

end Tree

end ContractLint
