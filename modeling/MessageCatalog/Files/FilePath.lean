/-!
# Paths

A path is a text whose parts are joined by slashes. Two paths with the same components are the same
path, and paths are ordered by their components: repeated slashes and dots between slashes do not
matter, except for a dot at the start.
-/

namespace MessageCatalog.Files

/-- A path as it was given. -/
structure FilePath where
  name : String
  deriving DecidableEq, Repr

inductive Component where
  | root
  /-- A dot at the start of a path. -/
  | here
  /-- Two dots. -/
  | up
  | part (name : String)
  deriving DecidableEq, Repr

namespace Component

/-- The order of the kinds of components. -/
def rank : Component → Nat
  | root => 0
  | here => 1
  | up => 2
  | part _ => 3

/-- A component comes before another one. -/
def isBefore : Component → Component → Bool
  | part a, part b => decide (a < b)
  | a, b => decide (a.rank < b.rank)

end Component

/-- The parts of a text between slashes. The characters of the part at hand are held latest
first. -/
def splitFrom (held : List Char) : List Char → List String
  | [] => [String.ofList held.reverse]
  | c :: s =>
    if c = '/' then String.ofList held.reverse :: splitFrom [] s else splitFrom (c :: held) s

namespace FilePath

def chars (p : FilePath) : List Char := p.name.toList

/-- The parts of a path between slashes. -/
def parts (p : FilePath) : List String :=
  splitFrom [] p.chars

/-- How many characters at the start of a path are a component that is no part of it: a slash, or a
dot alone or in front of a slash. -/
def leadLength (s : List Char) : Nat :=
  match s with
  | ['.'] | '/' :: _ | '.' :: '/' :: _ => 1
  | _ => 0

/-- The component that a part is, if it is one. -/
def componentOf? (part : String) : Option Component :=
  if part = "" ∨ part = "." then none
  else if part = ".." then some .up
  else some (.part part)

/-- The components of a path. -/
def components (p : FilePath) : List Component :=
  let lead : List Component := match p.chars with
    | '/' :: _ => [.root]
    | ['.'] | '.' :: '/' :: _ => [.here]
    | _ => []
  lead ++ p.parts.filterMap componentOf?

/-- Two paths are the same. -/
def isSame (a b : FilePath) : Bool :=
  decide (a.components = b.components)

/-- A list of components does not come after another one. -/
def componentsLe : List Component → List Component → Bool
  | [], _ => true
  | _ :: _, [] => false
  | a :: s, b :: t => if a = b then componentsLe s t else a.isBefore b

/-- A path does not come after another one. -/
def le (a b : FilePath) : Bool :=
  componentsLe a.components b.components

/-- A name below a path. -/
def join (p : FilePath) (name : String) : FilePath :=
  if name.toList.head? = some '/' ∨ p.name = "" then ⟨name⟩
  else if p.chars.getLast? = some '/' then ⟨p.name ++ name⟩
  else ⟨p.name ++ "/" ++ name⟩

/-- The last part of a text behind the characters at its start, with its slash. -/
def lastPart (s : List Char) : List Char :=
  let body := s.drop (leadLength s)
  let part := (body.reverse.takeWhile (· != '/')).reverse
  if part.length < body.length then '/' :: part else part

/-- Drop slashes and dots at the end of a path. -/
def trimmed (s : List Char) : List Char :=
  let last := lastPart s
  if _h : last ∈ [['/'], ['/', '.'], ['.']] ∧ 0 < s.length then
    trimmed (s.take (s.length - last.length))
  else s
  termination_by s.length
  decreasing_by
    obtain ⟨hmem, hpos⟩ := _h
    have hlast : 0 < last.length := by
      simp only [List.mem_cons, List.not_mem_nil, or_false] at hmem
      rcases hmem with h | h | h <;> simp [h]
    change 0 < (lastPart s).length at hlast
    simp only [List.length_take]
    omega

/-- The path without its last component; none for the root and the empty path. -/
def parent? (p : FilePath) : Option FilePath :=
  let s := trimmed p.chars
  match s with
  | [] | ['/'] => none
  | ['.'] => some ⟨""⟩
  | s => some ⟨String.ofList (trimmed (s.take (s.length - (lastPart s).length)))⟩

/-- What follows the last dot of the last part of a path, unless the part begins with that dot. -/
def extension? (p : FilePath) : Option String :=
  match p.components.getLast? with
  | some (.part name) =>
    let chars := name.toList
    let tail := (chars.reverse.takeWhile (· != '.')).reverse
    if tail.length + 1 < chars.length then some (String.ofList tail) else none
  | _ => none

/-- A path and its parents, the path first. -/
def ancestors : Nat → FilePath → List FilePath
  | 0, _ => []
  | fuel + 1, p =>
    if p.name = "" then []
    else
      match p.parent? with
      | some q => p :: ancestors fuel q
      | none => [p]

end FilePath

end MessageCatalog.Files
