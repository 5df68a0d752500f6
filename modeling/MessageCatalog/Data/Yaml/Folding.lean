import MessageCatalog.Data.Yaml.Cursor
import MessageCatalog.Text.Numeral

/-!
# Texts over several lines

A plain or quoted text may go over several lines. The blanks around a line break are dropped; one
line break is a space, and of several all but the first are kept.

A text being read is held with what may still be dropped: the blanks or the line breaks behind it.
Both are kept when more of the text follows.
-/

namespace MessageCatalog.Data.Yaml

/-- A text being read, all parts latest first. -/
structure Folding where
  text : List Char := []
  /-- The blanks behind the text, unless a line break follows it. -/
  blanks : List Char := []
  /-- The line breaks behind the text: the first, which is missing if it was escaped, and the
  others. -/
  breaks : Option (Option Char × List Char) := none
  deriving Repr

namespace Folding

/-- There are blanks or line breaks behind the text. -/
def isPending (f : Folding) : Bool :=
  !f.blanks.isEmpty || f.breaks.isSome

/-- Keep what is behind the text. -/
def settle (f : Folding) : Folding :=
  match f.breaks with
  | none => { text := f.blanks ++ f.text }
  | some (first, others) =>
    if first = some '\n' then { text := (if others.isEmpty then [' '] else others) ++ f.text }
    else { text := others ++ first.toList ++ f.text }

/-- A character of the text. -/
def push (f : Folding) (c : Char) : Folding :=
  let f := f.settle
  { f with text := c :: f.text }

def blank (f : Folding) (c : Char) : Folding :=
  if f.breaks.isSome then f else { f with blanks := c :: f.blanks }

def lineBreak (f : Folding) (c : Char) : Folding :=
  match f.breaks with
  | none => { f with blanks := [], breaks := some (some c, []) }
  | some (first, others) => { f with breaks := some (first, c :: others) }

/-- A line break that is escaped. -/
def escapedBreak (f : Folding) : Folding :=
  { f.settle with breaks := some (none, []) }

/-- The text without what is behind it. -/
def value (f : Folding) : List Char :=
  f.text.reverse

end Folding

/-- The text ends here: at a colon in front of a blank, or at a character that structures lists and
records in flow style. -/
def endsPlain (flow : Bool) (s : List Char) : Bool :=
  match s with
  | ':' :: rest => isSeparated rest
  | c :: _ => flow && ",[]\x7b\x7d".toList.contains c
  | [] => true

/-- A colon in flow style in front of a character that structures lists and records. -/
def isStrayColon (flow : Bool) (s : List Char) : Bool :=
  match s with
  | ':' :: c :: _ => flow && ",?[]\x7b\x7d".toList.contains c
  | _ => false

/-- Read a plain text whose further lines have an indentation. -/
def readPlain (flow : Bool) (indent : Int) (f : Folding) (k : Cursor) : Option (Folding × Cursor) :=
  match _h : k.rest with
  | [] => some (f, k)
  | c :: _ =>
    if isBlank c then
      if f.breaks.isSome && c == '\t' && decide ((k.column : Int) < indent) then none
      else readPlain flow indent (f.blank c) k.next
    else if isBreak c then readPlain flow indent (f.lineBreak k.lineBreak) k.nextLine
    else if f.isPending && ((!flow && decide ((k.column : Int) < indent)) || k.isAtMark || c == '#')
    then some (f, k)
    else if isStrayColon flow k.rest then none
    else if endsPlain flow k.rest then some (f, k)
    else readPlain flow indent (f.push c) k.next
  termination_by k.rest.length
  decreasing_by
    · exact Cursor.length_next_lt (by simp [_h])
    · exact Cursor.length_nextLine_lt (by simp [_h])
    · exact Cursor.length_next_lt (by simp [_h])

/-- Read a text in single quotes, behind the first of them. -/
def readSingleQuoted (f : Folding) (k : Cursor) : Option (List Char × Cursor) :=
  match _h : k.rest with
  | [] => none
  | c :: rest =>
    if isBlank c then readSingleQuoted (f.blank c) k.next
    else if isBreak c then readSingleQuoted (f.lineBreak k.lineBreak) k.nextLine
    else if k.isAtMark then none
    else if c = '\x27' then
      if rest.head? = some '\x27' then readSingleQuoted (f.push c) (k.skip 2)
      else some (f.settle.value, k.next)
    else readSingleQuoted (f.push c) k.next
  termination_by k.rest.length
  decreasing_by
    · exact Cursor.length_next_lt (by simp [_h])
    · exact Cursor.length_nextLine_lt (by simp [_h])
    · rw [Cursor.length_skip, _h, List.length_cons]; omega
    · exact Cursor.length_next_lt (by simp [_h])

/-- The character that one letter behind a backslash stands for. -/
def unescape? (c : Char) : Option Char :=
  match c with
  | '0' => some '\x00'
  | 'a' => some '\x07'
  | 'b' => some '\x08'
  | 't' | '\t' => some '\t'
  | 'n' => some '\n'
  | 'v' => some '\x0b'
  | 'f' => some '\x0c'
  | 'r' => some '\r'
  | 'e' => some '\x1b'
  | ' ' | '\x22' | '/' | '\\' => some c
  | 'N' => some '\x85'
  | '_' => some '\xa0'
  | 'L' => some '\u2028'
  | 'P' => some '\u2029'
  | _ => none

/-- How many digits follow a letter behind a backslash. -/
def escapeWidth? (c : Char) : Option Nat :=
  match c with
  | 'x' => some 2
  | 'u' => some 4
  | 'U' => some 8
  | _ => none

/-- The character with a number. -/
def charOfNumber? (n : Nat) : Option Char :=
  if n < 0xD800 ∨ (0xDFFF < n ∧ n ≤ 0x10FFFF) then some (Char.ofNat n) else none

/-- The value of so many hexadecimal digits. -/
def hexValue? (digits : List Char) : Option Nat :=
  digits.foldl (fun value? c => do
    let value ← value?
    let digit ← Text.digitValue? 16 c
    pure (16 * value + digit)) (some 0)

/-- The character that an escape stands for, given what follows the backslash, and its length. -/
def readEscape? (s : List Char) : Option (Char × Nat) :=
  match s with
  | [] => none
  | c :: rest =>
    match unescape? c with
    | some d => some (d, 1)
    | none => do
      let width ← escapeWidth? c
      let digits := rest.take width
      if digits.length < width then none
      else
        let d ← charOfNumber? (← hexValue? digits)
        pure (d, width + 1)

/-- Read a text in double quotes, behind the first of them. -/
def readDoubleQuoted (f : Folding) (k : Cursor) : Option (List Char × Cursor) :=
  match _h : k.rest with
  | [] => none
  | c :: rest =>
    if isBlank c then readDoubleQuoted (f.blank c) k.next
    else if isBreak c then readDoubleQuoted (f.lineBreak k.lineBreak) k.nextLine
    else if k.isAtMark then none
    else if c = '\x22' then some (f.settle.value, k.next)
    else if c = '\\' then
      if (rest.head?.map isBreak).getD false then readDoubleQuoted f.escapedBreak k.next.nextLine
      else
        match readEscape? rest with
        | none => none
        | some (d, n) => readDoubleQuoted (f.push d) (k.skip (n + 1))
    else readDoubleQuoted (f.push c) k.next
  termination_by k.rest.length
  decreasing_by
    · exact Cursor.length_next_lt (by simp [_h])
    · exact Cursor.length_nextLine_lt (by simp [_h])
    · exact Nat.lt_of_le_of_lt (Cursor.length_nextLine_le _) (Cursor.length_next_lt (by simp [_h]))
    · rw [Cursor.length_skip, _h, List.length_cons]; omega
    · exact Cursor.length_next_lt (by simp [_h])

end MessageCatalog.Data.Yaml
