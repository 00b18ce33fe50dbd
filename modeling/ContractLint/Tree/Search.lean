import ContractLint.Tree.Access

/-!
# Searching for contract files

`Tree.find` lists the Solidity files below a directory in the order of their names along the path.
Directories with an ignored name are not entered, and neither are symbolic links unless they are to
be followed.
-/

namespace ContractLint

/-- The directories that are not searched by default: build output, dependencies, version control
and the files of tools. -/
def defaultIgnored : List String :=
  ["build", "artifacts", "cache", "out", "typechain", "typechain-types", "node_modules", "lib",
    "vendor", ".git", ".svn", ".hg", ".vscode", ".idea", "venv", ".venv", "__pycache__",
    ".pytest_cache"]

/-- Why a directory cannot be searched. -/
inductive SearchError where
  /-- There is nothing at the path. -/
  | missing (path : Path)
  /-- The path is no directory. -/
  | notDirectory (path : Path)
  /-- A link on the path leads back to itself. -/
  | linkLoop (path : Path)
  deriving DecidableEq

/-- The text of an error. -/
def SearchError.message : SearchError → String
  | .missing path => "Root directory does not exist: " ++ toString path
  | .notDirectory path => "Root path is not a directory: " ++ toString path
  | .linkLoop path =>
    "Symlink loop from " ++ String.ofList (Text.quoted path.toText)

/-- Whether the last name of a path is ignored. -/
def Path.isIgnored (ignored : List String) (path : Path) : Bool :=
  ignored.contains path.name

namespace Tree

variable {α : Type}

mutual

/-- The names below a directory that lead to Solidity files, after the names `shown`.  What a link
leads to is listed by `visit`, from the place of its directory, the names so far and its name. -/
def solidityBelow (ignored : List String)
    (visit : Place → List String → String → List (List String))
    (here : Place) (shown : List String) : Tree α → List (List String)
  | .directory entries => solidityAmong ignored visit here shown entries
  | _ => []

/-- The names that lead to Solidity files through some entries of a directory. -/
def solidityAmong (ignored : List String)
    (visit : Place → List String → String → List (List String))
    (here : Place) (shown : List String) : List (String × Tree α) → List (List String)
  | [] => []
  | (name, .file _) :: rest =>
    (if Path.isSolidityName name then [shown ++ [name]] else [])
      ++ solidityAmong ignored visit here shown rest
  | (name, .link _) :: rest =>
    visit here shown name ++ solidityAmong ignored visit here shown rest
  | (name, .directory entries) :: rest =>
    (if ignored.contains name then []
      else solidityAmong ignored visit (here ++ [name]) (shown ++ [name]) entries)
      ++ solidityAmong ignored visit here shown rest

end

/-- The names below a directory that lead to Solidity files, where at most `links` links are
followed along each of them. -/
def solidityFollowing (root : Tree α) (ignored : List String) (links : Nat) (here : Place)
    (shown : List String) (tree : Tree α) : List (List String) :=
  tree.solidityBelow ignored (fun here shown name =>
    match follow root links here [name] with
    | .error _ => []
    | .ok (place, left) =>
      if left < links then
        match root.get? place with
        | some (.directory entries) =>
          if ignored.contains name then []
          else
            solidityFollowing root ignored left place (shown ++ [name]) (.directory entries)
        | some (.file _) => if Path.isSolidityName name then [shown ++ [name]] else []
        | _ => []
      else []) here shown
termination_by links

/-- Whether one place comes before another or is the same: by the first name in which they differ,
and a place before all that lie below it. -/
def comesBefore : Place → Place → Bool
  | [], _ => true
  | _ :: _, [] => false
  | a :: as, b :: bs => if a = b then comesBefore as bs else decide (a < b)

/-- The places of the Solidity files below a directory, in increasing order. -/
def findBelow (root : Tree α) (ignored : List String) (followLinks : Bool) (here : Place)
    (tree : Tree α) : List Place :=
  let names :=
    if followLinks then solidityFollowing root ignored linkLimit here [] tree
    else tree.solidityBelow ignored (fun _ _ _ => []) here []
  (names.map (here ++ ·)).mergeSort comesBefore

/-- The places of the Solidity files below the directory that a path text names. -/
def find (root : Tree α) (current : Place) (ignored : List String) (followLinks : Bool)
    (text : String) : Except SearchError (List Place) :=
  let canonical := root.canonical current text
  let path := pathOf canonical.place
  if !canonical.isResolved then .error (.linkLoop path)
  else
    match root.get? canonical.place with
    | none => .error (.missing path)
    | some tree =>
      if tree.isDirectory then .ok (root.findBelow ignored followLinks canonical.place tree)
      else .error (.notDirectory path)

end Tree

end ContractLint
