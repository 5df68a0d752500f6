import MessageCatalog.Data.Yaml.Character
import MessageCatalog.Data.Yaml.Schema

/-!
# Styles of texts in YAML

A text is written plain where it can be read back from that, else in single quotes, and else in
double quotes with escapes. A text of several lines is written as a literal block, unless its blanks
or characters would be lost in one.
-/

namespace MessageCatalog.Data.Yaml

/-- Two neighbours in a text are of some kinds. -/
def hasNeighbours (p q : Char → Bool) (s : List Char) : Bool :=
  (s.zip s.tail).any fun (a, b) => p a && q b

/-- The text has a character behind the first that would end a plain text: a colon in front of a
blank or at the end, or a number sign behind a blank. -/
def hasInnerIndicator : List Char → Bool
  | [] => false
  | [_] => false
  | c :: d :: s =>
    (d == ':' && isSeparated s) || (d == '#' && isBlankOrBreak c) ||
      hasInnerIndicator (d :: s)

/-- The text starts with a character that means something at the start of a text. -/
def startsWithIndicator (s : List Char) : Bool :=
  match s with
  | [] => false
  | c :: rest =>
    "#,[]\x7b\x7d&*!|>'\x22%@\x60".toList.contains c ||
      ((c == '?' || c == ':' || c == '-') && isSeparated rest) ||
      "---".toList.isPrefixOf s || "...".toList.isPrefixOf s

/-- The text starts or ends with a character of a kind. -/
def isEdgedBy (p : Char → Bool) (s : List Char) : Bool :=
  (s.head?.map p).getD false || (s.getLast?.map p).getD false

/-- A quoted text without escapes can hold the text: no space stands next to a line break, and
every character is printable. -/
def fitsSingleQuotes (s : List Char) : Bool :=
  s.all isPrintable && !hasNeighbours isSpace isBreak s && !hasNeighbours isBreak isSpace s

/-- The text can stand without quotes. -/
def fitsPlain (s : List Char) : Bool :=
  s.all isPrintable && !s.any isBreak && !isEdgedBy isSpace s && !startsWithIndicator s &&
    !hasInnerIndicator s

/-- A literal block can hold the text: no space stands in front of a line break or at the end, and
every character is printable. -/
def fitsLiteral (s : List Char) : Bool :=
  s.all isPrintable && !hasNeighbours isSpace isBreak s && !(s.getLast?.map isSpace).getD false

inductive TextStyle where
  | plain
  | singleQuoted
  | doubleQuoted
  | literal
  deriving DecidableEq, Repr

/-- The style in which a text is written. -/
def TextStyle.of (s : String) : TextStyle :=
  let chars := s.toList
  if chars.contains '\n' then
    if fitsLiteral chars then literal else doubleQuoted
  else if !isAmbiguous s && fitsPlain chars then plain
  else if fitsSingleQuotes chars then singleQuoted
  else doubleQuoted

end MessageCatalog.Data.Yaml
