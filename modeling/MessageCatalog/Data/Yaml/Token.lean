import MessageCatalog.Data.Yaml.Block
import MessageCatalog.Data.Yaml.Folding
import MessageCatalog.Data.Yaml.Tag

/-!
# The tokens of a YAML stream

A stream is cut into tokens from the left. Indentation is made visible: a token stands where a list
or record in block style begins, and another where it ends.

A text may turn out to be the name of a field only when the colon behind it is reached. Until then
it is held as a possible name, one for each flow level, and the tokens that a name needs are put in
front of it afterwards. A possible name has to end on its line and within 1024 bytes.
-/

namespace MessageCatalog.Data.Yaml

/-- How a text was written. -/
inductive Written where
  | plain
  | quoted
  | literal
  | folded
  deriving DecidableEq, Repr

inductive Token where
  | directive (d : Directive)
  | documentStart
  | documentEnd
  | blockListStart
  | blockRecordStart
  | blockEnd
  | flowListStart
  | flowListEnd
  | flowRecordStart
  | flowRecordEnd
  | blockEntry
  | flowEntry
  | name
  | value
  | reference (name : List Char)
  | anchor (name : List Char)
  | tag (tag : Tag)
  | text (written : Written) (chars : List Char)
  deriving DecidableEq, Repr

/-- A token that may be the start of the name of a field. -/
structure PossibleName where
  /-- How many tokens stand in front of it. -/
  position : Nat
  index : Nat
  line : Nat
  column : Nat
  /-- Nothing but a name can stand there. -/
  isRequired : Bool
  deriving Repr

/-- A stream being cut. -/
structure Cutting where
  cursor : Cursor
  /-- The tokens so far, latest first. -/
  tokens : List Token := []
  /-- How many tokens there are so far. -/
  count : Nat := 0
  /-- How many lists and records in flow style are open. -/
  flowDepth : Nat := 0
  /-- The indentation of the block at hand, and those around it. -/
  indent : Int := -1
  outer : List Int := []
  /-- A name may start here. -/
  nameAllowed : Bool := true
  /-- The possible name of each flow level, innermost first. -/
  names : List (Option PossibleName) := [none]
  deriving Repr

namespace Cutting

def isFlow (s : Cutting) : Bool := s.flowDepth != 0

def push (s : Cutting) (t : Token) : Cutting :=
  { s with tokens := t :: s.tokens, count := s.count + 1 }

/-- Put a token behind so many tokens. -/
def insert (s : Cutting) (position : Nat) (t : Token) : Cutting :=
  let n := s.count - position
  { s with tokens := s.tokens.take n ++ t :: s.tokens.drop n, count := s.count + 1 }

/-- Pass over characters of a line that make up a token. -/
def pushSkip (s : Cutting) (t : Token) (n : Nat) : Cutting :=
  { s.push t with cursor := s.cursor.skip n }

/-- A possible name that is left behind was none, unless it had to be one. -/
def forget? (name? : Option PossibleName) : Option (Option PossibleName) :=
  match name? with
  | some name => if name.isRequired then none else some none
  | none => some none

/-- Forget the possible name of the innermost level if it cannot be a name any more. The names of
outer levels wait until their level is reached again. -/
def dropStale? (s : Cutting) : Option Cutting :=
  match s.names with
  | some name :: rest =>
    if name.line < s.cursor.line ∨ name.index + 1024 < s.cursor.index then
      (forget? (some name)).map fun name? => { s with names := name? :: rest }
    else some s
  | _ => some s

/-- Forget the possible name of the innermost level. -/
def dropName? (s : Cutting) : Option Cutting :=
  match s.names with
  | name? :: rest => (forget? name?).map fun name? => { s with names := name? :: rest }
  | [] => some s

/-- The next token may start a name. -/
def saveName? (s : Cutting) : Option Cutting :=
  if s.nameAllowed then do
    let s ← s.dropName?
    let name : PossibleName :=
      { position := s.count, index := s.cursor.index, line := s.cursor.line,
        column := s.cursor.column,
        isRequired := !s.isFlow && decide (s.indent = s.cursor.column) }
    pure { s with names := some name :: s.names.drop 1 }
  else some s

/-- Begin a block at a column behind so many tokens, if it is indented further than the block at
hand. -/
def openBlock (s : Cutting) (column position : Nat) (t : Token) : Cutting :=
  if !s.isFlow && decide (s.indent < column) then
    { s.insert position t with indent := column, outer := s.indent :: s.outer }
  else s

/-- End the blocks that are indented further than a column. -/
def closeBlocks (s : Cutting) (column : Int) : List Int → Cutting
  | [] => { s with outer := [] }
  | next :: outer =>
    if column < s.indent then { s.push .blockEnd with indent := next }.closeBlocks column outer
    else { s with outer := next :: outer }

/-- End the blocks that are indented further than a column, outside flow style. -/
def closeTo (s : Cutting) (column : Int) : Cutting :=
  if s.isFlow then s else s.closeBlocks column s.outer

/-- Pass over the blanks and the comment in a line. At its start there may be a byte order mark. -/
def skipInLine (flow nameAllowed : Bool) (k : Cursor) : Cursor :=
  (k.skipMark.skipWhile fun c => c == ' ' || ((flow || !nameAllowed) && c == '\t')).skipComment

theorem length_skipInLine_le (flow nameAllowed : Bool) (k : Cursor) :
    (skipInLine flow nameAllowed k).rest.length ≤ k.rest.length :=
  Nat.le_trans (Cursor.length_skipComment_le _)
    (Nat.le_trans (Cursor.length_skip_le _ _) (Cursor.length_skipMark_le _))

/-- Pass over blanks, comments and line breaks. Behind a line break a name may start. -/
def skipBlanks (flow nameAllowed : Bool) (k : Cursor) : Bool × Cursor :=
  match _h : (skipInLine flow nameAllowed k).rest with
  | [] => (nameAllowed, skipInLine flow nameAllowed k)
  | c :: _ =>
    if isBreak c then
      skipBlanks flow (nameAllowed || !flow) (skipInLine flow nameAllowed k).nextLine
    else (nameAllowed, skipInLine flow nameAllowed k)
  termination_by k.rest.length
  decreasing_by
    exact Nat.lt_of_lt_of_le (Cursor.length_nextLine_lt (by simp [_h])) (length_skipInLine_le _ _ _)

/-- Take a directive or the mark of a document. -/
def takeOutside? (s : Cutting) (take : Cutting → Option Cutting) : Option Cutting := do
  let s ← (s.closeTo (-1)).dropName?
  take { s with nameAllowed := false }

/-- Take the start of a list or record in flow style. -/
def takeFlowStart? (s : Cutting) (t : Token) : Option Cutting := do
  let s ← s.saveName?
  let s := { s with names := none :: s.names, flowDepth := s.flowDepth + 1, nameAllowed := true }
  pure (s.pushSkip t 1)

/-- Take the end of a list or record in flow style. -/
def takeFlowEnd? (s : Cutting) (t : Token) : Option Cutting := do
  let s ← s.dropName?
  let names := if s.isFlow then s.names.drop 1 else s.names
  let s := { s with names, flowDepth := s.flowDepth - 1, nameAllowed := false }
  pure (s.pushSkip t 1)

/-- Take the comma between items in flow style. -/
def takeFlowEntry? (s : Cutting) : Option Cutting := do
  let s ← s.dropName?
  pure ({ s with nameAllowed := true }.pushSkip .flowEntry 1)

/-- Take the dash in front of an item. -/
def takeBlockEntry? (s : Cutting) : Option Cutting := do
  if !s.isFlow && !s.nameAllowed then none
  else
    let s ← (s.openBlock s.cursor.column s.count .blockListStart).dropName?
    pure ({ s with nameAllowed := true }.pushSkip .blockEntry 1)

/-- Take the question mark in front of a name. -/
def takeName? (s : Cutting) : Option Cutting := do
  if !s.isFlow && !s.nameAllowed then none
  else
    let s ← (s.openBlock s.cursor.column s.count .blockRecordStart).dropName?
    pure ({ s with nameAllowed := !s.isFlow }.pushSkip .name 1)

/-- Take the colon behind a name. The tokens that the name needs are put in front of it. -/
def takeValue? (s : Cutting) : Option Cutting :=
  match s.names with
  | some name :: rest =>
    let s := s.insert name.position .name
    let s := s.openBlock name.column name.position .blockRecordStart
    some ({ s with names := none :: rest, nameAllowed := false }.pushSkip .value 1)
  | _ =>
    if s.isFlow then some ({ s with nameAllowed := false }.pushSkip .value 1)
    else if !s.nameAllowed then none
    else
      let s := s.openBlock s.cursor.column s.count .blockRecordStart
      some ({ s with nameAllowed := true }.pushSkip .value 1)

/-- Take a token that may start a name, given what reads it. -/
def takeNode? {α : Type} (s : Cutting) (read : Cursor → Option (α × Cursor)) (token : α → Token) :
    Option Cutting := do
  let s ← s.saveName?
  let (a, cursor) ← read s.cursor
  pure { s.push (token a) with cursor, nameAllowed := false }

/-- Take a text below a bar or an angle bracket. -/
def takeBlock? (s : Cutting) (folded : Bool) : Option Cutting := do
  let s ← s.dropName?
  let (chars, cursor) ← readBlock folded s.indent s.cursor.next
  pure { s.push (.text (if folded then .folded else .literal) chars) with
    cursor, nameAllowed := true }

/-- Take a text without quotes. Behind a line break a name may start. -/
def takePlain? (s : Cutting) : Option Cutting := do
  let s ← s.saveName?
  let (f, cursor) ← readPlain s.isFlow (s.indent + 1) {} s.cursor
  pure { s.push (.text .plain f.value) with cursor, nameAllowed := f.breaks.isSome }

/-- A text without quotes may start like this. -/
def startsPlain (flow : Bool) (c : Char) (rest : List Char) : Bool :=
  if c == '-' then !(rest.head?.map isBlank).getD false
  else if c == '?' || c == ':' then !flow && !isSeparated rest
  else !isBlankOrBreak c && !"#,[]\x7b\x7d&*!|>\x27\x22%@\x60".toList.contains c

/-- Take the next token, which starts with a character. -/
def takeToken? (s : Cutting) (c : Char) (rest : List Char) : Option Cutting :=
  let k := s.cursor
  if k.column == 0 && c == '%' then
    s.takeOutside? fun s => do
      let (d, cursor) ← readDirective? k.next
      pure { s.push (.directive d) with cursor }
  else if k.isAtMark then
    s.takeOutside? fun s => some (s.pushSkip (if c == '-' then .documentStart else .documentEnd) 3)
  else if c == '[' then s.takeFlowStart? .flowListStart
  else if c == '\x7b' then s.takeFlowStart? .flowRecordStart
  else if c == ']' then s.takeFlowEnd? .flowListEnd
  else if c == '\x7d' then s.takeFlowEnd? .flowRecordEnd
  else if c == ',' then s.takeFlowEntry?
  else if c == '-' && isSeparated rest then s.takeBlockEntry?
  else if c == '?' && (s.isFlow || isSeparated rest) then s.takeName?
  else if c == ':' && (s.isFlow || isSeparated rest) then s.takeValue?
  else if c == '*' then s.takeNode? (readAnchor? ·.next) .reference
  else if c == '&' then s.takeNode? (readAnchor? ·.next) .anchor
  else if c == '!' then s.takeNode? (readTag? s.isFlow) .tag
  else if c == '|' && !s.isFlow then s.takeBlock? false
  else if c == '>' && !s.isFlow then s.takeBlock? true
  else if c == '\x27' then s.takeNode? (readSingleQuoted {} ·.next) (.text .quoted)
  else if c == '\x22' then s.takeNode? (readDoubleQuoted {} ·.next) (.text .quoted)
  else if startsPlain s.isFlow c rest then s.takePlain?
  else none

/-- Cut what is left of a stream. Every token takes a character at least. -/
def run : Nat → Cutting → Option (List Token)
  | 0, _ => none
  | fuel + 1, s => do
    let (nameAllowed, cursor) := skipBlanks s.isFlow s.nameAllowed s.cursor
    let s ← { s with nameAllowed, cursor }.dropStale?
    let s := s.closeTo s.cursor.column
    match s.cursor.rest with
    | [] =>
      let s ← (s.closeTo (-1)).dropName?
      pure s.tokens.reverse
    | c :: rest =>
      let s ← s.takeToken? c rest
      run fuel s

end Cutting

/-- The tokens of a stream. -/
def tokens? (s : List Char) : Option (List Token) :=
  if s.all isAllowed then Cutting.run (s.length + 1) { cursor := { rest := s } } else none

end MessageCatalog.Data.Yaml
