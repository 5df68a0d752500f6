import MessageCatalog.Encoding.Label
import MessageCatalog.Text.Letter

/-!
# The encoding that a document declares

A document may begin with an XML declaration that names its encoding. The declaration is looked for
in the first two hundred bytes, read leniently as UTF-8. Blanks may stand before it, and the name
`encoding` may stand anywhere before the first closing angle bracket, as long as it is a word of its
own on the left. Where it occurs more than once, the last one that is followed by a quoted label
counts.
-/

namespace MessageCatalog.Encoding

/-- A character that can stand in a label. -/
def isLabelChar (c : Char) : Bool :=
  c.isAlphanum || c == '.' || c == '_' || c == ':' || c == '-'

def isQuote (c : Char) : Bool :=
  c == '\x22' || c == '\x27'

/-- The text after some characters, if the text begins with them. -/
def after? : List Char → List Char → Option (List Char)
  | [], s => some s
  | p :: ps, c :: s => if p = c then after? ps s else none
  | _ :: _, [] => none

/-- The label at the start of a text: an equals sign with blanks around it and a quoted label. The
quotes need not be alike. -/
def labelAfterName? (s : List Char) : Option (List Char) := do
  let s ← after? ['='] (Text.trimStart s)
  match Text.trimStart s with
  | [] => none
  | quote :: s =>
    let label := s.takeWhile isLabelChar
    match s.dropWhile isLabelChar with
    | [] => none
    | close :: _ => if isQuote quote && isQuote close && !label.isEmpty then some label else none

/-- The label after the last `encoding` of a text that has one, where `previous` is the character in
front of the text. The search ends at a closing angle bracket. -/
def lastLabel? (previous : Char) : List Char → Option (List Char)
  | [] => none
  | c :: s =>
    let here? :=
      if Text.isWordPart previous then none
      else (after? "encoding".toList (c :: s)).bind labelAfterName?
    if c = '>' then none else (lastLabel? c s).or here?

/-- How many bytes are searched for a declaration. -/
def declarationReach : Nat := 200

/-- The label of the encoding that a document declares. -/
def declaredLabel? (bytes : List UInt8) : Option String := do
  let start := Text.trimStart (Utf8.decodeLossy (bytes.take declarationReach))
  let s ← after? "<?xml".toList start
  let label ← lastLabel? 'l' s
  pure (String.ofList label)

end MessageCatalog.Encoding
