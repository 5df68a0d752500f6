import MessageCatalog.Data.Yaml.Cursor
import MessageCatalog.Text.Numeral

/-!
# Block texts

A text below a bar or an angle bracket keeps its lines as they are, or folds them: between two lines
that do not start with a blank, a line break is a space. Its indentation is that of its first line,
unless the head gives it. Of the line breaks at the end, one is kept, or none, or all.
-/

namespace MessageCatalog.Data.Yaml

/-- What becomes of the line breaks at the end of a block text. -/
inductive Chomping where
  | strip
  | clip
  | keep
  deriving DecidableEq, Repr

/-- The head of a block text: an indentation from one to nine, and what becomes of the line breaks
at the end. -/
structure BlockHead where
  indentation : Option Nat := none
  chomping : Chomping := .clip
  deriving Repr

def chompingOf? (c : Char) : Option Chomping :=
  if c = '+' then some .keep else if c = '-' then some .strip else none

/-- The head of a block text, and its length. -/
def readBlockHead? (s : List Char) : Option (BlockHead × Nat) :=
  let digit? (s : List Char) : Option Char := s.head?.filter Char.isDigit
  let value (c : Char) : Nat := c.toNat - '0'.toNat
  let head? : Option (BlockHead × Nat) :=
    match s.head?.bind chompingOf? with
    | some chomping =>
      match digit? (s.drop 1) with
      | some c => some ({ chomping, indentation := some (value c) }, 2)
      | none => some ({ chomping }, 1)
    | none =>
      match digit? s with
      | some c =>
        match (s.drop 1).head?.bind chompingOf? with
        | some chomping => some ({ chomping, indentation := some (value c) }, 2)
        | none => some ({ indentation := some (value c) }, 1)
      | none => some ({}, 0)
  head?.filter fun (head, _) => head.indentation != some 0

/-- What stands between two lines of a block text. -/
structure Gap where
  /-- The line breaks, latest first. -/
  breaks : List Char := []
  /-- The largest indentation that was passed over. -/
  widest : Nat := 0
  deriving Repr

/-- Pass over empty lines and the indentation of the next line, up to a limit if there is one. -/
def skipGap (limit : Option Nat) (gap : Gap) (k : Cursor) : Option (Gap × Cursor) :=
  let inside := (limit.map fun n => decide (k.column < n)).getD true
  let gap' := { gap with widest := max gap.widest k.column }
  match _h : k.rest with
  | [] => some (gap', k)
  | c :: _ =>
    if inside && isSpace c then skipGap limit gap k.next
    else if inside && c == '\t' then none
    else if isBreak c then
      skipGap limit { gap' with breaks := k.lineBreak :: gap.breaks } k.nextLine
    else some (gap', k)
  termination_by k.rest.length
  decreasing_by
    · exact Cursor.length_next_lt (by simp [_h])
    · exact Cursor.length_nextLine_lt (by simp [_h])

theorem length_skipGap {limit : Option Nat} {gap gap' : Gap} {k k' : Cursor}
    (h : skipGap limit gap k = some (gap', k')) : k'.rest.length ≤ k.rest.length := by
  fun_induction skipGap limit gap k with
  | case1 =>
    simp only [Option.some.injEq, Prod.mk.injEq] at h
    exact Nat.le_of_eq (congrArg (·.rest.length) h.2.symm)
  | case2 _ k _ _ _ hk _ ih =>
    exact Nat.le_of_lt (Nat.lt_of_le_of_lt (ih h) (Cursor.length_next_lt (by simp [hk])))
  | case3 => cases h
  | case4 _ k _ _ _ _ hk _ _ _ ih => exact Nat.le_trans (ih h) (Cursor.length_nextLine_le _)
  | case5 =>
    simp only [Option.some.injEq, Prod.mk.injEq] at h
    exact Nat.le_of_eq (congrArg (·.rest.length) h.2.symm)

/-- A block text being read: the text so far, the break behind its last line, and the empty lines
behind that, all latest first. -/
structure BlockText where
  text : List Char := []
  lastBreak : Option Char := none
  breaks : List Char := []
  /-- The last line starts with a blank. -/
  startsBlank : Bool := false
  deriving Repr

namespace BlockText

/-- Another line of the text. -/
def push (b : BlockText) (folded : Bool) (line : List Char) : BlockText :=
  let startsBlank := (line.head?.map isBlank).getD false
  let joint :=
    if folded && b.lastBreak == some '\n' && !b.startsBlank && !startsBlank then
      if b.breaks.isEmpty then [' '] else []
    else b.lastBreak.toList
  { text := line.reverse ++ b.breaks ++ joint ++ b.text, startsBlank }

/-- The whole text. -/
def value (b : BlockText) (chomping : Chomping) : List Char :=
  (match chomping with
    | .strip => b.text
    | .clip => b.lastBreak.toList ++ b.text
    | .keep => b.breaks ++ b.lastBreak.toList ++ b.text).reverse

end BlockText

/-- Read the lines of a block text with an indentation. -/
def readBlockLines (folded : Bool) (indent : Nat) (b : BlockText) (k : Cursor) :
    Option (BlockText × Cursor) :=
  if _h : k.column ≠ indent ∨ k.rest = [] then some (b, k)
  else
    let line := k.takeWhile (!isBreak ·)
    let b := b.push folded line
    let after := k.skip line.length
    if _ha : after.rest = [] then some (b, after)
    else
      match _hg : skipGap (some indent) {} after.nextLine with
      | none => none
      | some (gap, next) =>
        let b := { b with lastBreak := some after.lineBreak, breaks := gap.breaks }
        readBlockLines folded indent b next
  termination_by k.rest.length
  decreasing_by
    exact Nat.lt_of_le_of_lt (length_skipGap _hg)
      (Nat.lt_of_lt_of_le (Cursor.length_nextLine_lt _ha) (Cursor.length_skip_le _ _))

/-- Read a block text behind its bar or angle bracket, inside a structure with an indentation. -/
def readBlock (folded : Bool) (outer : Int) (k : Cursor) : Option (List Char × Cursor) := do
  let (head, n) ← readBlockHead? k.rest
  let k ← (k.skip n).skipLineEnd?
  let limit := head.indentation.map fun n => (max outer 0).toNat + n
  let (gap, k) ← skipGap limit {} k
  let indent := limit.getD (max gap.widest (max (outer + 1) 1).toNat)
  let (b, k) ← readBlockLines folded indent { breaks := gap.breaks } k
  pure (b.value head.chomping, k)

end MessageCatalog.Data.Yaml
