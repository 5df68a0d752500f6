import MessageCatalog.Data.Yaml.Cursor
import MessageCatalog.Encoding.Utf8
import MessageCatalog.Text.Numeral

/-!
# Tags, anchors and directives

The small parts of a YAML stream: the name of an anchor, a tag with its handle, and the directives
in front of a document.
-/

namespace MessageCatalog.Data.Yaml

/-- A tag as it is written: the handle, which stands for the start of the tag, and the rest. The
rest is bytes, since escapes may spell bytes that are no text. -/
structure Tag where
  handle : List Char
  suffix : List UInt8
  deriving DecidableEq, Repr

/-- The name of an anchor or an alias, behind its sign. -/
def readAnchor? (k : Cursor) : Option (List Char × Cursor) :=
  let name := k.takeWhile isNameChar
  let k := k.skip name.length
  if name.isEmpty || !(isSeparated k.rest ||
      (k.rest.head?.map fun c => "?:,]\x7d%@\x60".toList.contains c).getD false) then none
  else some (name, k)

/-- The character may stand in a tag; some more may stand in a tag that is written out. -/
def isTagChar (verbatim : Bool) (c : Char) : Bool :=
  isNameChar c || ";/?:@&=+$.%!~*\x27()".toList.contains c ||
    (verbatim && ",[]".toList.contains c)

/-- How many bytes a character has, given the first of them. -/
def widthOfByte? (b : UInt8) : Option Nat :=
  if b < 0x80 then some 1
  else if b &&& 0xE0 = 0xC0 then some 2
  else if b &&& 0xF0 = 0xE0 then some 3
  else if b &&& 0xF8 = 0xF0 then some 4
  else none

/-- The bytes that a tag spells. An escape stands for one byte; the escapes for the bytes of a
character have to follow each other, and so many are still expected. -/
def unescapeTag (expected : Nat) : List Char → Option (List UInt8)
  | [] => if expected = 0 then some [] else none
  | '%' :: a :: b :: s => do
    let a ← Text.digitValue? 16 a
    let b ← Text.digitValue? 16 b
    let byte := (16 * a + b).toUInt8
    if expected = 0 then
      let width ← widthOfByte? byte
      let rest ← unescapeTag (width - 1) s
      pure (byte :: rest)
    else if byte &&& 0xC0 = 0x80 then
      let rest ← unescapeTag (expected - 1) s
      pure (byte :: rest)
    else none
  | c :: s =>
    if c = '%' ∨ expected ≠ 0 then none
    else (unescapeTag 0 s).map (Encoding.Utf8.encode [c] ++ ·)

/-- The characters of a tag, of which there has to be one at least unless some stand before. A null
byte ends what they spell. -/
def readTagBytes? (verbatim : Bool) (before : List Char) (k : Cursor) :
    Option (List UInt8 × Cursor) := do
  let chars := k.takeWhile (isTagChar verbatim)
  if before.isEmpty && chars.isEmpty then none
  else
    let bytes ← unescapeTag 0 chars
    pure ((Encoding.Utf8.encode (before.drop 1) ++ bytes).takeWhile (· != 0), k.skip chars.length)

/-- The handle of a tag: two exclamation marks around a name, or one mark and a name that may turn
out to be no handle. -/
def readHandle? (k : Cursor) : Option (List Char × Cursor) :=
  match k.rest with
  | '!' :: rest =>
    let name := rest.takeWhile isNameChar
    let k := k.skip (name.length + 1)
    if k.rest.head? = some '!' then some ('!' :: name ++ ['!'], k.next)
    else some ('!' :: name, k)
  | _ => none

/-- A tag that is written out, behind its opening bracket. -/
def readVerbatimTag? (k : Cursor) : Option (Tag × Cursor) := do
  let (suffix, k) ← readTagBytes? true [] k
  if k.rest.head? ≠ some '>' then none else pure (⟨[], suffix⟩, k.next)

/-- A tag with a handle. A mark that is alone is a tag by itself. -/
def readShortTag? (k : Cursor) : Option (Tag × Cursor) := do
  let (handle, k) ← readHandle? k
  if 1 < handle.length ∧ handle.getLast? = some '!' then
    let (suffix, k) ← readTagBytes? false [] k
    pure (⟨handle, suffix⟩, k)
  else
    let (suffix, k) ← readTagBytes? false handle k
    pure (if suffix.isEmpty then ⟨[], [0x21]⟩ else ⟨['!'], suffix⟩, k)

/-- A tag, and what has to follow it. -/
def readTag? (flow : Bool) (k : Cursor) : Option (Tag × Cursor) := do
  let (tag, k) ←
    if k.rest[1]? = some '<' then readVerbatimTag? (k.skip 2) else readShortTag? k
  if isSeparated k.rest || (flow && k.rest.head? == some ',') then pure (tag, k) else none

/-- A directive in front of a document. -/
inductive Directive where
  | version (major minor : Nat)
  /-- What a handle stands for. -/
  | handle (name : List Char) (meaning : List UInt8)
  deriving DecidableEq, Repr

/-- A number of at most nine digits. -/
def readVersionNumber? (k : Cursor) : Option (Nat × Cursor) :=
  let digits := k.takeWhile Char.isDigit
  if digits.isEmpty || 9 < digits.length then none
  else some (digits.foldl (fun n c => 10 * n + (c.toNat - '0'.toNat)) 0, k.skip digits.length)

/-- A directive, behind its percent sign. -/
def readDirective? (k : Cursor) : Option (Directive × Cursor) := do
  let name := k.takeWhile isNameChar
  let k := k.skip name.length
  if !isSeparated k.rest then none
  else
    let k := k.skipWhile isBlank
    if name = "YAML".toList then
      let (major, k) ← readVersionNumber? k
      if k.rest.head? ≠ some '.' then none
      else
        let (minor, k) ← readVersionNumber? k.next
        let k ← k.skipLineEnd?
        pure (.version major minor, k)
    else if name = "TAG".toList then
      let (handle, k) ← readHandle? k
      if handle.length ≠ 1 ∧ handle.getLast? ≠ some '!' then none
      else if !(k.rest.head?.map isBlank).getD false then none
      else
        let (meaning, k) ← readTagBytes? true [] (k.skipWhile isBlank)
        if !isSeparated k.rest then none
        else
          let k ← k.skipLineEnd?
          pure (.handle handle meaning, k)
    else none

end MessageCatalog.Data.Yaml
