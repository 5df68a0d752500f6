import MessageCatalog.Markup.Entity

/-!
# Tags and their attributes

A tag is its name and what follows the name. Attributes are read from left to right: a key, an
equals sign and a value in quotes, with blanks allowed around the sign. Nothing but an equals sign
ends a key apart from a blank, and no key may occur twice.

A fault is reported at a place in the tag, counted in bytes behind the opening bracket.
-/

namespace MessageCatalog.Markup

/-- Blanks between the parts of a tag. -/
def isSpace (c : Char) : Bool :=
  c == ' ' || c == '\t' || c == '\n' || c == '\r'

/-- What is wrong with the attributes of a tag, and where. -/
inductive AttributeFault where
  | noEquals (place : Nat)
  | noValue (place : Nat)
  | noQuote (place : Nat)
  | openValue (place : Nat) (quote : Char)
  | duplicate (place previous : Nat)
  | entity (fault : EntityFault)
  deriving DecidableEq, Repr

namespace AttributeFault

def message : AttributeFault → String
  | noEquals place =>
    s!"position {place}: attribute key must be directly followed by `=` or space"
  | noValue place => s!"position {place}: `=` must be followed by an attribute value"
  | noQuote place =>
    s!"position {place}: attribute value must be enclosed in `\x22` or `'`"
  | openValue place quote =>
    s!"position {place}: missing closing quote `{quote}` in attribute value"
  | duplicate place previous =>
    s!"position {place}: duplicated attribute, previous declaration at position {previous}"
  | entity fault => fault.message

end AttributeFault

/-- An attribute of a tag. -/
structure Attribute where
  key : String
  value : String
  deriving DecidableEq, Repr

/-- The value of the attribute with a key. -/
def attribute? (attributes : List Attribute) (key : String) : Option String :=
  (attributes.find? (·.key == key)).map (·.value)

/-- What the next character of a tag belongs to. Keys and values are held with the latest character
first. -/
inductive AttributeMode where
  /-- Nothing yet: a key may begin. -/
  | between
  | key (place : Nat) (held : List Char)
  /-- The blanks behind a key. -/
  | afterKey (place : Nat) (key : List Char)
  /-- The blanks behind an equals sign. -/
  | afterSign (key : List Char)
  | value (key : List Char) (quote : Char) (held : List Char)
  deriving DecidableEq, Repr

/-- Attributes being read: the places of the keys and the attributes so far, both latest first. -/
structure AttributeReading where
  mode : AttributeMode := .between
  keys : List (List Char × Nat) := []
  attributes : List Attribute := []
  deriving DecidableEq, Repr

namespace AttributeReading

/-- A key is complete, as an equals sign follows it. -/
def closeKey (r : AttributeReading) (place : Nat) (key : List Char) :
    Except AttributeFault AttributeReading :=
  match r.keys.lookup key with
  | some previous => .error (.duplicate place previous)
  | none => .ok { r with mode := .afterSign key, keys := (key, place) :: r.keys }

/-- A value is complete, as its closing quote follows it. -/
def closeValue (r : AttributeReading) (key raw : List Char) :
    Except AttributeFault AttributeReading :=
  match unescape raw with
  | .error fault => .error (.entity fault)
  | .ok value =>
    .ok { r with
      mode := .between, attributes := ⟨String.ofList key, String.ofList value⟩ :: r.attributes }

/-- Take the character at a place. -/
def step (r : AttributeReading) (place : Nat) (c : Char) :
    Except AttributeFault AttributeReading :=
  match r.mode with
  | .between => .ok (if isSpace c then r else { r with mode := .key place [c] })
  | .key start held =>
    if c = '=' then r.closeKey start held.reverse
    else if isSpace c then .ok { r with mode := .afterKey start held.reverse }
    else .ok { r with mode := .key start (c :: held) }
  | .afterKey start key =>
    if c = '=' then r.closeKey start key
    else if isSpace c then .ok r
    else .error (.noEquals place)
  | .afterSign key =>
    if isSpace c then .ok r
    else if c = '\x22' ∨ c = '\x27' then .ok { r with mode := .value key c [] }
    else .error (.noQuote place)
  | .value key quote held =>
    if c = quote then r.closeValue key held.reverse
    else .ok { r with mode := .value key quote (c :: held) }

/-- The attributes of a tag that ends here, after so many bytes. -/
def finish (r : AttributeReading) (total : Nat) : Except AttributeFault (List Attribute) :=
  match r.mode with
  | .between => .ok r.attributes.reverse
  | .key _ _ | .afterKey _ _ => .error (.noEquals total)
  | .afterSign _ => .error (.noValue total)
  | .value _ quote _ => .error (.openValue total quote)

/-- Take the characters from a place on. -/
def run (r : AttributeReading) (place : Nat) : List Char → Except AttributeFault (List Attribute)
  | [] => r.finish place
  | c :: rest =>
    match r.step place c with
    | .error fault => .error fault
    | .ok r => run r (place + c.utf8Size) rest

end AttributeReading

/-- A tag: what stands between its brackets, less the slash that closes it at once. -/
structure Tag where
  inside : List Char
  deriving DecidableEq, Repr

namespace Tag

/-- The name of a tag, which reaches to the first blank. -/
def name (t : Tag) : List Char :=
  t.inside.takeWhile (!isSpace ·)

/-- The attributes of a tag. -/
def attributes (t : Tag) : Except AttributeFault (List Attribute) :=
  AttributeReading.run {} (byteLength t.name) (t.inside.dropWhile (!isSpace ·))

end Tag

end MessageCatalog.Markup
