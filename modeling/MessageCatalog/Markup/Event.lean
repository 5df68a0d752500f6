import MessageCatalog.Markup.Piece
import MessageCatalog.Markup.Tag

/-!
# Events

What a piece of markup says: an element opens, closes, or does both at once; text stands in it,
escaped or verbatim; or nothing of interest to the document happens. Elements have to close in the
order in which they are open, which `Nesting` keeps track of.
-/

namespace MessageCatalog.Markup

/-- What a piece of markup says. -/
inductive Event where
  | opening (tag : Tag)
  | selfClosing (tag : Tag)
  | closing (name : List Char)
  /-- Text with entities in it. -/
  | text (raw : List Char)
  /-- Text as it stands. -/
  | verbatim (content : List Char)
  /-- A comment, an instruction or a document type. -/
  | aside
  deriving DecidableEq, Repr

/-- Why markup is refused. -/
inductive Fault where
  | cut (fault : CutFault)
  | mismatched (expected found : String)
  | unmatched (found : String)
  | namelessDoctype
  deriving DecidableEq, Repr

namespace Fault

def message : Fault → String
  | cut .strayDeclaration => "syntax error: unknown or missed symbol in markup"
  | cut .openInstruction =>
    "syntax error: processing instruction or xml declaration not closed: " ++
      "`?>` not found before end of input"
  | cut .openComment => "syntax error: comment not closed: `-->` not found before end of input"
  | cut .openDoctype => "syntax error: DOCTYPE not closed: `>` not found before end of input"
  | cut .openVerbatim => "syntax error: CDATA not closed: `]]>` not found before end of input"
  | cut .openTag => "syntax error: tag not closed: `>` not found before end of input"
  | mismatched expected found =>
    s!"ill-formed document: expected `</{expected}>`, but `</{found}>` was found"
  | unmatched found =>
    s!"ill-formed document: close tag `</{found}>` does not match any open tag"
  | namelessDoctype =>
    "ill-formed document: `<!DOCTYPE>` declaration does not contain a name of a document type"

end Fault

/-- The name in a closing tag, less the blanks behind it. A name of blanks alone is kept. -/
def closingName (inside : List Char) : List Char :=
  if inside.all isSpace then inside else (inside.reverse.dropWhile isSpace).reverse

/-- What a tag says. -/
def Event.ofTag (inside : List Char) : Event :=
  match inside with
  | '/' :: name => .closing (closingName name)
  | _ => if inside.getLast? = some '/' then .selfClosing ⟨inside.dropLast⟩ else .opening ⟨inside⟩

/-- What a piece says. -/
def Event.ofPiece : Piece → Except Fault Event
  | .text raw => .ok (.text raw)
  | .tag inside => .ok (Event.ofTag inside)
  | .instruction inside =>
    if inside.length = 1 then .error (.cut .openInstruction) else .ok .aside
  | .comment inside =>
    if "!--".toList.isPrefixOf inside then .ok .aside else .error (.cut .openComment)
  | .verbatim inside =>
    if "![CDATA[".toList.isPrefixOf inside then .ok (.verbatim (inside.drop 8).dropLast.dropLast)
    else .error (.cut .openVerbatim)
  | .doctype inside =>
    if "!doctype".toList.isPrefixOf (Text.lowercase inside) then
      if (inside.drop 8).all isSpace then .error .namelessDoctype else .ok .aside
    else .error (.cut .openDoctype)

/-- The names of the open elements, innermost first. -/
abbrev Nesting := List (List Char)

/-- The open elements after an event. -/
def Nesting.after (opened : Nesting) : Event → Except Fault Nesting
  | .opening tag => .ok (tag.name :: opened)
  | .closing name =>
    match opened with
    | [] => .error (.unmatched (String.ofList name))
    | expected :: rest =>
      if expected = name then .ok rest
      else .error (.mismatched (String.ofList expected) (String.ofList name))
  | _ => .ok opened

end MessageCatalog.Markup
