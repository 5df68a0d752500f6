import MessageCatalog.Catalog.Assembly
import MessageCatalog.Encoding.Declaration

/-!
# Reading catalogs

A catalog file is bytes. `decode` finds out how they are written: by a byte order mark, by the
encoding that the document declares, or else as UTF-8. `Catalog.parse` cuts the text into pieces,
takes the events of the pieces in order and reports the first fault with its line.

A fault of the content is reported at the place where its piece begins, and a fault of the markup at
the place where its piece ends, or at the end of the text when the piece is cut short. Places are
counted in bytes behind a byte order mark, and lines in the text with the mark.
-/

namespace MessageCatalog

open Markup

/-- What is wrong in a document. -/
inductive DocumentFault where
  | markup (fault : Markup.Fault)
  | content (fault : ContentFault)
  deriving DecidableEq, Repr

def DocumentFault.message : DocumentFault → String
  | markup fault => fault.message
  | content fault => fault.message

/-- Why a catalog cannot be read. -/
inductive ReadFault where
  | unsupportedEncoding (label : String)
  | notUtf8 (fault : Encoding.Utf8.Fault)
  /-- The bytes are not text of the encoding. -/
  | malformed (encoding : String)
  | inDocument (line : Nat) (fault : DocumentFault)
  | noRoot
  | unfinished
  deriving DecidableEq, Repr

namespace ReadFault

/-- The fault with its causes, outermost first. -/
def chain : ReadFault → List String
  | unsupportedEncoding label => [s!"unsupported catalog encoding '{label}'"]
  | notUtf8 fault => ["catalog is not valid UTF-8", fault.message]
  | malformed encoding => [s!"catalog is not valid {encoding}"]
  | inDocument line fault => [s!"line {line}: {fault.message}"]
  | noRoot => ["no <TS> root element"]
  | unfinished => ["unexpected end of catalog"]

def message (f : ReadFault) : String :=
  ": ".intercalate f.chain

end ReadFault

/-- The number of the line in which a place of a text is. -/
def lineAt : List Char → Nat → Nat
  | [], _ => 1
  | _ :: _, 0 => 1
  | c :: s, place => (if c = '\n' then 1 else 0) + lineAt s (place - c.utf8Size)

/-- A catalog being read: the place at which the next piece begins, the open elements and the
catalog so far. -/
structure Reading where
  place : Nat := 0
  nesting : Nesting := []
  assembly : Assembly := {}
  deriving Repr

namespace Reading

/-- Take the next piece. A fault is told with its place. -/
def take (r : Reading) (piece : Piece) : Except (Nat × DocumentFault) Reading := do
  let place := r.place + byteLength piece.source
  let event ← (Event.ofPiece piece).mapError fun fault => (place, .markup fault)
  let nesting ← (r.nesting.after event).mapError fun fault => (place, .markup fault)
  let assembly ← (r.assembly.take event).mapError fun fault => (r.place, .content fault)
  pure { place, nesting, assembly }

/-- Take pieces in order. -/
def run (r : Reading) : List Piece → Except (Nat × DocumentFault) Reading
  | [] => .ok r
  | piece :: rest => do
    let r ← r.take piece
    r.run rest

/-- Take all pieces of a text, which may be cut short. -/
def runAll (r : Reading) (k : Cutting) : Except (Nat × DocumentFault) Reading := do
  let r ← r.run k.finished
  match k.fault? with
  | some fault => .error (r.place + byteLength k.openSource, .markup (.cut fault))
  | none => pure r

end Reading

/-- The catalog that is assembled when the text ends. -/
def Assembly.finish (a : Assembly) : Except ReadFault Catalog :=
  match a.catalog with
  | none => .error .noRoot
  | some catalog =>
    if a.closed && a.context.isNone && a.message.isNone then
      .ok { catalog with contexts := a.contexts.reverse }
    else .error .unfinished

/-- A byte order mark that was read as a character does not belong to the text. -/
def dropByteOrderMark : List Char → List Char
  | c :: rest => if c = Char.ofNat 0xFEFF then rest else c :: rest
  | [] => []

/-- Read a catalog from characters. -/
def Catalog.parseChars (s : List Char) : Except ReadFault Catalog :=
  match Reading.runAll {} (cut (dropByteOrderMark s)) with
  | .error (place, fault) => .error (.inDocument (lineAt s place) fault)
  | .ok r => r.assembly.finish

/-- Read a catalog from text. -/
def Catalog.parse (text : String) : Except ReadFault Catalog :=
  Catalog.parseChars text.toList

/-- The characters of a document in whatever encoding it announces. -/
def decode (bytes : List UInt8) : Except ReadFault (List Char) :=
  match Encoding.ofByteOrderMark? bytes with
  | some (encoding, rest) => decodeAs encoding rest
  | none =>
    match Encoding.declaredLabel? bytes with
    | none => decodeUtf8
    | some label =>
      match Encoding.ofLabel? label with
      | none => .error (.unsupportedEncoding label)
      | some .utf8 => decodeUtf8
      | some encoding => decodeAs encoding bytes
where
  decodeAs (encoding : Encoding) (bytes : List UInt8) : Except ReadFault (List Char) :=
    match encoding.decode? bytes with
    | some s => .ok s
    | none => .error (.malformed encoding.name)
  decodeUtf8 : Except ReadFault (List Char) :=
    (Encoding.Utf8.decode bytes).mapError .notUtf8

/-- Read a catalog from bytes. -/
def Catalog.parseBytes (bytes : List UInt8) : Except ReadFault Catalog := do
  Catalog.parseChars (← decode bytes)

end MessageCatalog
