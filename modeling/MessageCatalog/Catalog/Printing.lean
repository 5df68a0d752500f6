import MessageCatalog.Catalog.Basic
import MessageCatalog.Encoding.Utf8
import MessageCatalog.Markup.Entity

/-!
# Writing catalogs

The canonical layout of a catalog file: one element to a line, indented by its depth, and a line
break behind every line. In the text of an element a control character, which markup cannot carry,
is written as a `byte` element with its number; tabs and line breaks stand as they are.
-/

namespace MessageCatalog

open Markup

/-- A control character other than a tab and the two line breaks. -/
def isBareControl (c : Char) : Bool :=
  (decide (c.toNat < 0x20) || decide (0x7F ≤ c.toNat) && decide (c.toNat < 0xA0)) &&
    !(c == '\n' || c == '\r' || c == '\t')

/-- A character as it is written in the text of an element. -/
def escapeTextChar (c : Char) : List Char :=
  if isBareControl c then
    "<byte value=\x22x".toList ++ Text.hex c.toNat ++ "\x22/>".toList
  else escapeChar c

/-- The text of an element. -/
def escapeText (s : List Char) : List Char :=
  s.flatMap escapeTextChar

namespace Printing

/-- An attribute, with a blank in front. -/
def attr (key : String) (value : String) : List Char :=
  ' ' :: (key.toList ++ "=\x22".toList ++ escape value.toList ++ "\x22".toList)

/-- An attribute that may be absent. -/
def optionalAttr (key : String) : Option String → List Char
  | none => []
  | some value => attr key value

/-- An element with its text, on a line indented by so many blanks. -/
def element (indent : Nat) (name : String) (text : String) : List Char :=
  List.replicate indent ' ' ++ '<' :: (name.toList ++ '>' :: (escapeText text.toList ++
    "</".toList ++ name.toList ++ ['>']))

/-- An element that may be absent. -/
def element? (indent : Nat) (name : String) : Option String → List (List Char)
  | none => []
  | some text => [element indent name text]

def location (l : Location) : List Char :=
  List.replicate 8 ' ' ++ "<location".toList ++ optionalAttr "filename" l.filename ++
    optionalAttr "line" l.line ++ "/>".toList

/-- The opening tag of a target, which carries the mark of the status. -/
def targetTag (status : Status) : List Char :=
  "<translation".toList ++ optionalAttr "type" status.mark? ++ ['>']

def targetEnd : List Char := "</translation>".toList

/-- The lines of a target. Plural forms stand on lines of their own. -/
def target (status : Status) : Target → List (List Char)
  | .single text =>
    [List.replicate 8 ' ' ++ targetTag status ++ escapeText text.toList ++ targetEnd]
  | .plural [] => [List.replicate 8 ' ' ++ targetTag status ++ targetEnd]
  | .plural forms =>
    [List.replicate 8 ' ' ++ targetTag status] ++ forms.map (element 12 "numerusform") ++
      [List.replicate 8 ' ' ++ targetEnd]

def message (m : Message) : List (List Char) :=
  [List.replicate 4 ' ' ++ "<message".toList ++ optionalAttr "id" m.id ++
      (if m.numerus then attr "numerus" "yes" else []) ++ ['>']] ++
    m.locations.map location ++
    [element 8 "source" m.source] ++
    element? 8 "oldsource" m.oldSource ++
    element? 8 "comment" m.comment ++
    element? 8 "oldcomment" m.oldComment ++
    element? 8 "extracomment" m.extraComment ++
    element? 8 "translatorcomment" m.translatorComment ++
    target m.status m.target ++
    [List.replicate 4 ' ' ++ "</message>".toList]

def context (c : Context) : List (List Char) :=
  ["<context>".toList, element 4 "name" c.name] ++ element? 4 "comment" c.comment ++
    c.messages.flatMap message ++ ["</context>".toList]

def catalog (c : Catalog) : List (List Char) :=
  ["<?xml version=\x221.0\x22 encoding=\x22utf-8\x22?>".toList, "<!DOCTYPE TS>".toList,
    "<TS".toList ++ attr "version" c.version ++ optionalAttr "language" c.language ++
      optionalAttr "sourcelanguage" c.sourceLanguage ++ ['>']] ++
    c.contexts.flatMap context ++ ["</TS>".toList]

end Printing

namespace Catalog

/-- The characters of the file of a catalog. -/
def printChars (c : Catalog) : List Char :=
  (Printing.catalog c).flatMap (· ++ ['\n'])

/-- The file of a catalog. -/
def print (c : Catalog) : String :=
  String.ofList c.printChars

/-- The bytes of the file of a catalog. -/
def printBytes (c : Catalog) : List UInt8 :=
  Encoding.Utf8.encode c.printChars

end Catalog

end MessageCatalog
