import MessageCatalog.Data.Yaml.Character

/-!
# A place in a YAML stream

What is left of the text, and how far into the text and into its line that is. How far into the text
is measured in bytes, and how far into a line in characters.
-/

namespace MessageCatalog.Data.Yaml

structure Cursor where
  rest : List Char
  /-- How many bytes stand before. -/
  index : Nat := 0
  /-- How many lines are complete. -/
  line : Nat := 0
  /-- How many characters of the line stand before. -/
  column : Nat := 0
  deriving Repr

namespace Cursor

/-- Pass over one character of a line. -/
def next (k : Cursor) : Cursor :=
  match k.rest with
  | [] => k
  | c :: rest => { k with rest, index := k.index + c.utf8Size, column := k.column + 1 }

/-- Pass over so many characters of a line. -/
def skip (k : Cursor) : Nat → Cursor
  | 0 => k
  | n + 1 => k.next.skip n

/-- Pass over a line break. One of two characters is one break. -/
def nextLine (k : Cursor) : Cursor :=
  match k.rest with
  | '\r' :: '\n' :: rest => { rest, index := k.index + 2, line := k.line + 1, column := 0 }
  | c :: rest => { rest, index := k.index + c.utf8Size, line := k.line + 1, column := 0 }
  | [] => k

/-- What a line break stands for: itself if it separates lines or paragraphs, else a line feed. -/
def lineBreak (k : Cursor) : Char :=
  match k.rest with
  | '\u2028' :: _ => '\u2028'
  | '\u2029' :: _ => '\u2029'
  | _ => '\n'

/-- The characters of a kind that come first. -/
def takeWhile (k : Cursor) (p : Char → Bool) : List Char :=
  k.rest.takeWhile p

/-- Pass over the characters of a kind that come first. They must not break lines. -/
def skipWhile (k : Cursor) (p : Char → Bool) : Cursor :=
  k.skip (k.takeWhile p).length

/-- A line starts here with three characters that begin or end a document. -/
def isAtMark (k : Cursor) : Bool :=
  k.column == 0 && (["---".toList, "...".toList].any (·.isPrefixOf k.rest)) &&
    isSeparated (k.rest.drop 3)

/-- The line ends here. -/
def isAtLineEnd (k : Cursor) : Bool :=
  (k.rest.head?.map isBreak).getD true

/-- Pass over a byte order mark at the start of a line. -/
def skipMark (k : Cursor) : Cursor :=
  if k.column == 0 && k.rest.head? == some '\ufeff' then k.next else k

/-- Pass over a comment. -/
def skipComment (k : Cursor) : Cursor :=
  if k.rest.head? = some '#' then k.skipWhile (!isBreak ·) else k

/-- Pass over blanks, a comment and a line break, if nothing else is left of the line. -/
def skipLineEnd? (k : Cursor) : Option Cursor :=
  let k := (k.skipWhile isBlank).skipComment
  if !k.isAtLineEnd then none
  else if k.rest.isEmpty then some k
  else some k.nextLine

theorem length_next (k : Cursor) : k.next.rest.length = k.rest.length - 1 := by
  unfold next
  split
  · next h => simp [h]
  · next h => simp [h]

theorem length_next_lt {k : Cursor} (h : k.rest ≠ []) : k.next.rest.length < k.rest.length := by
  have := List.length_pos_iff.2 h
  rw [length_next]
  omega

theorem length_nextLine_lt {k : Cursor} (h : k.rest ≠ []) :
    k.nextLine.rest.length < k.rest.length := by
  unfold nextLine
  split
  · next h => simp only [h, List.length_cons]; omega
  · next h => simp [h]
  · contradiction

theorem length_nextLine_le (k : Cursor) : k.nextLine.rest.length ≤ k.rest.length := by
  by_cases h : k.rest = []
  · simp [nextLine, h]
  · exact Nat.le_of_lt (length_nextLine_lt h)

theorem length_skip (k : Cursor) (n : Nat) : (k.skip n).rest.length = k.rest.length - n := by
  induction n generalizing k with
  | zero => rfl
  | succ n ih => rw [skip, ih, length_next]; omega

theorem length_skip_le (k : Cursor) (n : Nat) : (k.skip n).rest.length ≤ k.rest.length := by
  rw [length_skip]
  omega

theorem length_skipMark_le (k : Cursor) : k.skipMark.rest.length ≤ k.rest.length := by
  unfold skipMark
  split
  · exact k.length_skip_le 1
  · exact Nat.le_refl _

theorem length_skipComment_le (k : Cursor) : k.skipComment.rest.length ≤ k.rest.length := by
  unfold skipComment
  split
  · exact k.length_skip_le _
  · exact Nat.le_refl _

end Cursor

end MessageCatalog.Data.Yaml
