import MessageCatalog.Files.Access

/-!
# Trees of files

A tree holds files and directories by their places, a place being the names on the way from the top.
`Tree.resolve` finds the place that a path leads to: every name on the way has to be a directory,
and the last one may be missing. A tree is a world with files.
-/

namespace MessageCatalog.Files

/-- The names on the way from the top of a tree. -/
abbrev Place := List String

inductive Entry where
  | file (content : Bytes)
  | directory
  deriving DecidableEq, Repr

/-- Files and directories by their places. The top is a directory. -/
structure Tree where
  entries : List (Place × Entry) := []
  deriving DecidableEq, Repr

namespace Tree

/-- What is at a place. -/
def get? (t : Tree) (place : Place) : Option Entry :=
  if place = [] then some .directory else t.entries.lookup place

/-- Put an entry in the place of what is there, or at the end. -/
def putEntry (place : Place) (entry : Entry) : List (Place × Entry) → List (Place × Entry)
  | [] => [(place, entry)]
  | e :: rest => if e.1 = place then (place, entry) :: rest else e :: putEntry place entry rest

/-- Put an entry at a place. -/
def put (t : Tree) (place : Place) (entry : Entry) : Tree :=
  ⟨putEntry place entry t.entries⟩

/-- Follow the parts of a path from a directory. -/
def follow (t : Tree) (place : Place) : List String → Except Refusal Place
  | [] => .ok place
  | part :: rest =>
    if part = "" ∨ part = "." then follow t place rest
    else if part = ".." then follow t place.dropLast rest
    else
      let next := place ++ [part]
      if rest = [] then .ok next
      else
        match t.get? next with
        | some .directory => follow t next rest
        | some (.file _) => .error .notDirectory
        | none => .error .missing

/-- The place that a path leads to. -/
def resolve (t : Tree) (p : FilePath) : Except Refusal Place :=
  if p.name = "" then .error .missing else t.follow [] p.parts

/-- What a path leads to. -/
def find? (t : Tree) (p : FilePath) : Option Entry :=
  (t.resolve p).toOption.bind t.get?

def kind? (t : Tree) (p : FilePath) : Option Kind :=
  (t.find? p).map fun
    | .file _ => .file
    | .directory => .directory

def read (t : Tree) (p : FilePath) : Except Refusal Bytes := do
  match t.get? (← t.resolve p) with
  | some (.file content) => .ok content
  | some .directory => .error .isDirectory
  | none => .error .missing

/-- Write a file. A path that ends in a slash can only be that of a directory. -/
def write (t : Tree) (p : FilePath) (content : Bytes) : Except Refusal Tree := do
  if p.name = "" then .error .missing
  else
    let place ← t.follow [] (p.parts.filter (· ≠ ""))
    if p.parts.getLast? = some "" ∨ t.get? place = some .directory then .error .isDirectory
    else .ok (t.put place (.file content))

/-- Make a directory in a directory. -/
def makeDirectory (t : Tree) (p : FilePath) : Except Refusal Tree := do
  let place ← t.resolve p
  match t.get? place with
  | some _ => .error .present
  | none => .ok (t.put place .directory)

/-- Make a directory, unless there is one. -/
def ensureDirectory (t : Tree) (p : FilePath) : Except Refusal Tree :=
  match t.makeDirectory p with
  | .ok t => .ok t
  | .error r => if t.kind? p = some .directory then .ok t else .error r

/-- Make the first of some directories, each of which is in the next one. What is missing above is
made first. -/
def makeFrom (t : Tree) : List FilePath → Except Refusal Tree
  | [] => .ok t
  | p :: above =>
    match t.makeDirectory p with
    | .error .missing => do
      let t ← makeFrom t above
      t.ensureDirectory p
    | _ => t.ensureDirectory p

/-- Make a directory and those above it. -/
def makeDirectories (t : Tree) (p : FilePath) : Except Refusal Tree :=
  t.makeFrom (p.ancestors (p.chars.length + 1))

/-- The path of a place below a directory. -/
def pathBelow (p : FilePath) (names : List String) : FilePath :=
  names.foldl FilePath.join p

/-- The files below a directory. -/
def below (t : Tree) (p : FilePath) : List FilePath :=
  match t.resolve p with
  | .error _ => []
  | .ok place =>
    t.entries.filterMap fun
      | (q, .file _) =>
        if place.isPrefixOf q ∧ place.length < q.length then
          some (pathBelow p (q.drop place.length))
        else none
      | (_, .directory) => none

/-- Put a file into a tree with the directories on the way to it. A path that ends in a slash is an
empty directory. -/
def plant (t : Tree) (p : FilePath) (content : Bytes) : Tree :=
  let names := p.parts.filter (· ≠ "")
  let ways := (List.range names.length).map fun n => names.take n
  let t := ways.foldl (fun t way => if (t.get? way).isSome then t else t.put way .directory) t
  if p.parts.getLast? = some "" then t.put names .directory else t.put names (.file content)

end Tree

/-- A change of a tree that may be refused. -/
def change (f : Tree → Except Refusal Tree) : StateM Tree (Except Refusal Unit) := fun t =>
  match f t with
  | .ok t => (.ok (), t)
  | .error r => (.error r, t)

instance : Access (StateM Tree) where
  read p := return (← get).read p
  write p content := change (·.write p content)
  kind? p := return (← get).kind? p
  below p := return (← get).below p
  makeDirectories p := change (·.makeDirectories p)

end MessageCatalog.Files
