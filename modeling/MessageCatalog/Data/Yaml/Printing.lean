import MessageCatalog.Data.Value
import MessageCatalog.Data.Yaml.Style

/-!
# Writing YAML

Values in block style. The fields of a record stand below each other; the items of a list stand
behind dashes, below the name of the field and not indented under it. Lines are never folded. A
value of one of several kinds has the name of its kind as a tag.
-/

namespace MessageCatalog.Data.Yaml

def spaces (n : Nat) : List Char :=
  List.replicate n ' '

/-- An escaped character in double quotes. Every character beyond the first plane is printable, so
that four digits are enough. -/
def escape (c : Char) : List Char :=
  match c with
  | '\x00' => ['\\', '0']
  | '\x07' => ['\\', 'a']
  | '\x08' => ['\\', 'b']
  | '\t' => ['\\', 't']
  | '\n' => ['\\', 'n']
  | '\x0b' => ['\\', 'v']
  | '\x0c' => ['\\', 'f']
  | '\r' => ['\\', 'r']
  | '\x1b' => ['\\', 'e']
  | '\x22' => ['\\', '\x22']
  | '\\' => ['\\', '\\']
  | '\x85' => ['\\', 'N']
  | '\xa0' => ['\\', '_']
  | '\u2028' => ['\\', 'L']
  | '\u2029' => ['\\', 'P']
  | c =>
    let n := c.toNat
    let (letter, width) := if n ≤ 0xFF then ('x', 2) else ('u', 4)
    '\\' :: letter :: (Text.hexPadded width n).map Char.toUpper

/-- The character needs an escape in double quotes. -/
def needsEscape (c : Char) : Bool :=
  !isPrintable c || isBreak c || c == '\x22' || c == '\\'

def doubleQuoted (s : List Char) : List Char :=
  '\x22' :: (s.flatMap fun c => if needsEscape c then escape c else [c]) ++ ['\x22']

/-- A text whose lines behind the first are indented; `fresh` says that a line has just begun. -/
def indentLines (indent : Nat) (encode : Char → List Char) : Bool → List Char → List Char
  | _, [] => []
  | fresh, c :: s =>
    if isBreak c then c :: indentLines indent encode true s
    else (if fresh then spaces indent else []) ++ encode c ++ indentLines indent encode false s

/-- The text ends with a line break. -/
def endsWithBreak (s : List Char) : Bool :=
  (s.getLast?.map isBreak).getD false

def singleQuoted (indent : Nat) (s : List Char) : List Char :=
  '\x27' :: indentLines indent (fun c => if c = '\x27' then ['\x27', '\x27'] else [c]) false s ++
    (if endsWithBreak s then spaces indent else []) ++ ['\x27']

/-- What stands behind the bar of a literal block: the indentation when the first line does not show
it, and what becomes of the line breaks at the end. -/
def literalHints (s : List Char) : List Char :=
  (if (s.head?.map fun c => isSpace c || isBreak c).getD false then ['2'] else []) ++
    (match s.reverse with
      | [] => ['-']
      | [c] => if isBreak c then ['+'] else ['-']
      | c :: d :: _ => if !isBreak c then ['-'] else if isBreak d then ['+'] else [])

def literal (indent : Nat) (s : List Char) : List Char :=
  '|' :: literalHints s ++ '\n' :: indentLines indent (fun c => [c]) true s ++
    (if endsWithBreak s then [] else ['\n'])

/-- A text in its style, with the end of its line. -/
def printText (indent : Nat) (s : String) : List Char :=
  match TextStyle.of s with
  | .plain => s.toList ++ ['\n']
  | .singleQuoted => singleQuoted indent s.toList ++ ['\n']
  | .doubleQuoted => doubleQuoted s.toList ++ ['\n']
  | .literal => literal indent s.toList

mutual

/-- A value behind the name of a field or a tag. -/
def printValue (indent : Nat) : Value → List Char
  | .null | .damaged => " null\n".toList
  | .bool true => " true\n".toList
  | .bool false => " false\n".toList
  | .number literal => ' ' :: literal.toList ++ ['\n']
  | .text s => ' ' :: printText (indent + 2) s
  | .list [] => " []\n".toList
  | .list (item :: items) => '\n' :: printItems indent (item :: items)
  | .record [] => " \x7b\x7d\n".toList
  | .record (field :: fields) => '\n' :: printFields (indent + 2) (field :: fields)
  | .tagged tag value => " !".toList ++ tag.toList ++ printValue indent value

/-- The items of a list, each behind a dash. The first field of a record stands on the line of its
dash. -/
def printItems (indent : Nat) : List Value → List Char
  | [] => []
  | .record ((name, value) :: fields) :: items =>
    spaces indent ++ "- ".toList ++ name.toList ++ ':' :: printValue (indent + 2) value ++
      printFields (indent + 2) fields ++ printItems indent items
  | item :: items => spaces indent ++ '-' :: printValue indent item ++ printItems indent items

/-- The fields of a record, each on a line of its own. -/
def printFields (indent : Nat) : List (String × Value) → List Char
  | [] => []
  | (name, value) :: fields =>
    spaces indent ++ name.toList ++ ':' :: printValue indent value ++ printFields indent fields

end

/-- A value as a document. -/
def print (v : Value) : String :=
  String.ofList <| match v with
    | .record (field :: fields) => printFields 0 (field :: fields)
    | v => (printValue 0 v).drop 1

end MessageCatalog.Data.Yaml
