/-!
# Tables of coded characters

A coded character set numbers its places and puts a character at some of them. The encodings that
are built on it only differ in how they write the number of a place in bytes.
-/

namespace MessageCatalog.Encoding

/-- Which character stands at each place, if any. -/
structure CodeTable where
  cells : Array (Option Char)

namespace CodeTable

/-- The character at a place. -/
def char? (t : CodeTable) (place : Nat) : Option Char :=
  (t.cells[place]?).join

/-- Put characters at the places from `first` on, which must lie behind all those already taken. -/
def append (t : CodeTable) (first : Nat) (chars : List Char) : CodeTable :=
  ⟨chars.foldl (fun cells c => cells.push (some c))
    (t.cells ++ Array.replicate (first - t.cells.size) none)⟩

/-- The table of some runs of characters, each with the place of its first. -/
def ofRuns (runs : List (Nat × List Char)) : CodeTable :=
  runs.foldl (fun t (first, chars) => t.append first chars) ⟨#[]⟩

/-- The characters of some lines, one after another. -/
def lines (ls : List String) : List Char :=
  ls.flatMap String.toList

/-- So many characters in the order of their code points. -/
def consecutive (first count : Nat) : List Char :=
  (List.range count).map fun i => Char.ofNat (first + i)

end CodeTable

end MessageCatalog.Encoding
