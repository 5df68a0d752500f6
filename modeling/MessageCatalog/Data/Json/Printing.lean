import MessageCatalog.Data.Value

/-!
# Writing JSON

Two layouts: `pretty` puts every item of a list and every field of a record on a line of its own,
indented by two blanks for each level, and `compact` puts all on one line without blanks. A list or
record without items is written on one line in both. A tagged value is a record with one field.
-/

namespace MessageCatalog.Data.Json

/-- A character inside a text. The quote, the backslash and the control characters of ASCII are
escaped. -/
def escapeChar (c : Char) : List Char :=
  if c = '\x22' then ['\\', '\x22']
  else if c = '\\' then ['\\', '\\']
  else if c = '\x08' then ['\\', 'b']
  else if c = '\x0c' then ['\\', 'f']
  else if c = '\n' then ['\\', 'n']
  else if c = '\r' then ['\\', 'r']
  else if c = '\t' then ['\\', 't']
  else if c.toNat < 0x20 then '\\' :: 'u' :: Text.hexPadded 4 c.toNat
  else [c]

/-- A text in quotes. -/
def quoted (s : String) : List Char :=
  '\x22' :: (s.toList.flatMap escapeChar ++ ['\x22'])

/-- What stands between the parts of a value. -/
structure Layout where
  /-- A line break and blanks, at a depth. -/
  newline : Nat → List Char
  /-- What follows the name of a field. -/
  colon : List Char

def prettyLayout : Layout where
  newline depth := '\n' :: List.replicate (2 * depth) ' '
  colon := [':', ' ']

def compactLayout : Layout where
  newline _ := []
  colon := [':']

mutual

/-- A value at a depth. -/
def print (l : Layout) (depth : Nat) : Value → List Char
  | .null | .damaged => "null".toList
  | .bool true => "true".toList
  | .bool false => "false".toList
  | .number literal => literal.toList
  | .text s => quoted s
  | .list [] => ['[', ']']
  | .list (item :: items) =>
    '[' :: (l.newline (depth + 1) ++ print l (depth + 1) item ++ printItems l (depth + 1) items ++
      l.newline depth ++ [']'])
  | .record [] => ['{', '}']
  | .record ((name, value) :: fields) =>
    '{' :: (l.newline (depth + 1) ++ quoted name ++ l.colon ++ print l (depth + 1) value ++
      printFields l (depth + 1) fields ++ l.newline depth ++ ['}'])
  | .tagged tag value =>
    '{' :: (l.newline (depth + 1) ++ quoted tag ++ l.colon ++ print l (depth + 1) value ++
      l.newline depth ++ ['}'])

/-- The items behind the first one, each behind a comma. -/
def printItems (l : Layout) (depth : Nat) : List Value → List Char
  | [] => []
  | item :: items =>
    ',' :: (l.newline depth ++ print l depth item ++ printItems l depth items)

/-- The fields behind the first one, each behind a comma. -/
def printFields (l : Layout) (depth : Nat) : List (String × Value) → List Char
  | [] => []
  | (name, value) :: fields =>
    ',' :: (l.newline depth ++ quoted name ++ l.colon ++ print l depth value ++
      printFields l depth fields)

end

/-- A value over several lines. -/
def pretty (v : Value) : String :=
  String.ofList (print prettyLayout 0 v)

/-- A value on one line. -/
def compact (v : Value) : String :=
  String.ofList (print compactLayout 0 v)

end MessageCatalog.Data.Json
