import MessageCatalog.Catalog.Basic
import MessageCatalog.Markup.Event

/-!
# Assembling a catalog from events

The events of a catalog file are taken one by one. The root element is `TS`; contexts stand in it,
messages in contexts, and text in the fields of both. An element that is not part of the format
where it stands is skipped with all it holds. A field collects the text, the verbatim text and the
`byte` elements that stand in it.

A target may hold plural forms, and a target or a form may hold variants of different length, of
which the first is kept.
-/

namespace MessageCatalog

open Markup

/-- An element that holds text. -/
inductive Field where
  | contextName
  | contextComment
  | source
  | oldSource
  | comment
  | oldComment
  | extraComment
  | translatorComment
  | target
  /-- One plural form of a target. -/
  | form
  /-- One of the texts of different length of a target or a form. -/
  | variant
  deriving DecidableEq, Repr

/-- The field that an element directly inside a message holds, other than the target. -/
def Field.ofMessageElement? (name : String) : Option Field :=
  if name = "source" then some .source
  else if name = "oldsource" then some .oldSource
  else if name = "comment" then some .comment
  else if name = "oldcomment" then some .oldComment
  else if name = "extracomment" then some .extraComment
  else if name = "translatorcomment" then some .translatorComment
  else none

/-- Why the content of a catalog file is refused. -/
inductive ContentFault where
  | badAttribute (fault : AttributeFault)
  | badEntity (fault : EntityFault)
  | byteWithoutValue
  /-- The value is no number, or not the number of a character. -/
  | badByte (value : String) (cause : Option Text.NumeralFault)
  | otherRoot (name : String)
  | afterRoot
  | nestedRoot
  | unknownMark (mark : String)
  deriving DecidableEq, Repr

namespace ContentFault

def message : ContentFault → String
  | badAttribute fault => fault.message
  | badEntity fault => fault.message
  | byteWithoutValue => "<byte> element without value"
  | badByte value none => s!"invalid <byte> value '{value}'"
  | badByte value (some cause) => s!"invalid <byte> value '{value}': {cause.message}"
  | otherRoot name => s!"expected <TS> root element, found <{name}>"
  | afterRoot => "content after closing </TS>"
  | nestedRoot => "nested <TS> element"
  | unknownMark mark => s!"unknown translation type '{mark}'"

end ContentFault

/-- The character that the value of a `byte` element names: a decimal number, or a hexadecimal one
after an `x`. -/
def byteValue (value : String) : Except ContentFault Char :=
  let number := match value.toList with
    | 'x' :: digits | 'X' :: digits => Text.readNumeral 16 (Nat.pow 2 32) digits
    | digits => Text.readNumeral 10 (Nat.pow 2 32) digits
  match number with
  | .error fault => .error (.badByte value (some fault))
  | .ok code =>
    match charOfCode? code with
    | none => .error (.badByte value none)
    | some c => .ok c

/-- A catalog being assembled. What has been collected for an element that is still open stands
beside it, latest first, and is put into it when it closes. -/
structure Assembly where
  /-- The catalog, once its root element is open. -/
  catalog : Option Catalog := none
  /-- The contexts of the catalog so far. -/
  contexts : List Context := []
  /-- The root element is closed. -/
  closed : Bool := false
  /-- The context that is open. -/
  context : Option Context := none
  /-- The messages of the open context so far. -/
  messages : List Message := []
  /-- The message that is open. -/
  message : Option Message := none
  /-- The locations of the open message so far. -/
  locations : List Location := []
  /-- The open message has had a target. -/
  sawTarget : Bool := false
  /-- The field that is open. -/
  field : Option Field := none
  /-- The text of the open field so far. -/
  text : String := ""
  /-- The plural forms of the open target so far. -/
  forms : List String := []
  /-- The first variant of the open target or form, if it has had any. -/
  firstVariant : Option String := none
  /-- What the open variant is a variant of. -/
  variantOf : Option Field := none
  /-- How many elements are open that are being skipped. -/
  skipDepth : Nat := 0
  /-- A `byte` element is open. -/
  inByte : Bool := false
  deriving DecidableEq, Repr

namespace Assembly

/-- Skip the element that has just opened. -/
def skip (a : Assembly) : Assembly :=
  { a with skipDepth := 1 }

/-- Open a field, with no text in it. -/
def beginField (a : Assembly) (field : Field) : Assembly :=
  { a with field := some field, text := "" }

/-- Text stands in the open field, if there is one and nothing is being skipped. -/
def addText (a : Assembly) (s : List Char) : Assembly :=
  if a.field.isSome && a.skipDepth == 0 then { a with text := a.text ++ String.ofList s } else a

/-- The attributes of a tag. -/
def attributesOf (tag : Tag) : Except ContentFault (List Attribute) :=
  tag.attributes.mapError .badAttribute

/-- A `byte` element opens in a field. -/
def openByte (a : Assembly) (tag : Tag) : Except ContentFault Assembly := do
  let attributes ← attributesOf tag
  match attribute? attributes "value" with
  | none => .error .byteWithoutValue
  | some value =>
    let c ← byteValue value
    pure { a with text := a.text.push c, inByte := true }

/-- The root element opens. -/
def openRoot (a : Assembly) (name : String) (tag : Tag) : Except ContentFault Assembly := do
  if name ≠ "TS" then .error (.otherRoot name)
  else
    let attributes ← attributesOf tag
    let version := (attribute? attributes "version").getD ({} : Catalog).version
    pure { a with catalog := some {
      version
      language := attribute? attributes "language"
      sourceLanguage := attribute? attributes "sourcelanguage" } }

/-- An element opens in a context. -/
def openInContext (a : Assembly) (name : String) (tag : Tag) : Except ContentFault Assembly := do
  if name = "name" then pure (a.beginField .contextName)
  else if name = "comment" then pure (a.beginField .contextComment)
  else if name = "message" then
    let attributes ← attributesOf tag
    pure { a with
      message := some {
        id := attribute? attributes "id"
        numerus := attribute? attributes "numerus" = some "yes" }
      locations := []
      sawTarget := false }
  else pure a.skip

/-- An element opens in a message in which no field is open. -/
def openInMessage (a : Assembly) (message : Message) (name : String) (tag : Tag) :
    Except ContentFault Assembly := do
  if name = "location" then
    let attributes ← attributesOf tag
    let location : Location := {
      filename := attribute? attributes "filename"
      line := attribute? attributes "line" }
    pure { a with locations := location :: a.locations, skipDepth := 1 }
  else if name = "translation" then
    let attributes ← attributesOf tag
    let mark? := attribute? attributes "type"
    match Status.ofMark? mark? with
    | none => .error (.unknownMark (mark?.getD ""))
    | some status =>
      let a := { a with message := some { message with status }, sawTarget := true, forms := [] }
      pure (a.beginField .target)
  else
    match Field.ofMessageElement? name with
    | some field => pure (a.beginField field)
    | none => pure a.skip

/-- An element opens in a field of a message. -/
def openInField (a : Assembly) (field : Field) (name : String) : Assembly :=
  if field = .target ∧ name = "numerusform" then a.beginField .form
  else if (field = .target ∨ field = .form) ∧ name = "lengthvariant" then
    { a with variantOf := some field }.beginField .variant
  else a.skip

/-- An element opens. -/
def openTag (a : Assembly) (tag : Tag) : Except ContentFault Assembly :=
  let name := String.ofList tag.name
  if a.skipDepth > 0 then .ok { a with skipDepth := a.skipDepth + 1 }
  else if name = "byte" ∧ a.field.isSome then a.openByte tag
  else if a.catalog.isNone then a.openRoot name tag
  else if a.closed then .error .afterRoot
  else
    match a.message with
    | some message =>
      match a.field with
      | some field => .ok (a.openInField field name)
      | none => a.openInMessage message name tag
    | none =>
      if a.context.isSome then a.openInContext name tag
      else if name = "context" then .ok { a with context := some {}, messages := [] }
      else if name = "TS" then .error .nestedRoot
      else .ok a.skip

/-- The open message takes the text of a field of its own. -/
def setInMessage (a : Assembly) (field : Field) (text : String) : Assembly :=
  match a.message with
  | none => a
  | some m =>
    match field with
    | .source => { a with message := some { m with source := text } }
    | .oldSource => { a with message := some { m with oldSource := some text } }
    | .comment => { a with message := some { m with comment := some text } }
    | .oldComment => { a with message := some { m with oldComment := some text } }
    | .extraComment => { a with message := some { m with extraComment := some text } }
    | .translatorComment => { a with message := some { m with translatorComment := some text } }
    | .target =>
      let target : Target :=
        if m.numerus || !a.forms.isEmpty then .plural a.forms.reverse else .single text
      { a with message := some { m with target }, forms := [] }
    | _ => a

/-- The open context takes the text of a field of its own. -/
def setInContext (a : Assembly) (field : Field) (text : String) : Assembly :=
  match a.context with
  | none => a
  | some c =>
    match field with
    | .contextName => { a with context := some { c with name := text } }
    | .contextComment => { a with context := some { c with comment := some text } }
    | _ => a

/-- The open field closes. The first of its variants takes the place of its text. -/
def closeField (a : Assembly) (field : Field) : Assembly :=
  match field with
  | .variant =>
    { a with
      firstVariant := a.firstVariant.or (some a.text)
      text := "", field := a.variantOf, variantOf := none }
  | _ =>
    let text := a.firstVariant.getD a.text
    let a := { a with text := "", firstVariant := none }
    match field with
    | .form => { a with forms := text :: a.forms, field := some .target }
    | .contextName | .contextComment => { a.setInContext field text with field := none }
    | _ => { a.setInMessage field text with field := none }

/-- The open message closes. A message with a count and without a target has no forms. -/
def closeMessage (a : Assembly) : Assembly :=
  match a.message with
  | some m =>
    let m := { m with locations := a.locations.reverse }
    let m := if !a.sawTarget && m.numerus then { m with target := .plural [] } else m
    { a with message := none, messages := m :: a.messages }
  | none => a

/-- The open context closes. -/
def closeContext (a : Assembly) : Assembly :=
  match a.context with
  | some c =>
    let c := { c with messages := a.messages.reverse }
    { a with context := none, contexts := c :: a.contexts }
  | none => a

/-- An element closes. -/
def closeTag (a : Assembly) (name : List Char) : Assembly :=
  let name := String.ofList name
  if a.skipDepth > 0 then { a with skipDepth := a.skipDepth - 1 }
  else if a.inByte ∧ name = "byte" then { a with inByte := false }
  else
    match a.field with
    | some field => a.closeField field
    | none =>
      if name = "message" then a.closeMessage
      else if name = "context" then a.closeContext
      else if name = "TS" then { a with closed := true }
      else a

/-- Take the next event. -/
def take (a : Assembly) : Event → Except ContentFault Assembly
  | .opening tag => a.openTag tag
  | .selfClosing tag => (a.openTag tag).map (·.closeTag tag.name)
  | .closing name => .ok (a.closeTag name)
  | .text raw =>
    match unescape raw with
    | .error fault => .error (.badEntity fault)
    | .ok s => .ok (a.addText s)
  | .verbatim content => .ok (a.addText content)
  | .aside => .ok a

end Assembly

end MessageCatalog
