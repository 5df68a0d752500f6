import MessageCatalog.Text.Numeral

/-!
# Data

What is written to data files and read from them: texts, numbers, truth values, lists, and records
whose fields keep their order. A tagged value is a value of one of several kinds, with the name of
its kind.
-/

namespace MessageCatalog.Data

inductive Value where
  | null
  | bool (b : Bool)
  /-- A number as it is written. -/
  | number (literal : String)
  | text (s : String)
  /-- A text or name with half of a character in it, so that it can only be passed over. -/
  | damaged
  | list (items : List Value)
  | record (fields : List (String × Value))
  | tagged (tag : String) (value : Value)
  deriving Repr

namespace Value

def nat (n : Nat) : Value :=
  number (String.ofList (Text.decimal n))

/-- A list of texts. -/
def texts (items : List String) : Value :=
  list (items.map text)

def text? : Value → Option String
  | text s => some s
  | _ => none

def bool? : Value → Option Bool
  | bool b => some b
  | _ => none

def list? : Value → Option (List Value)
  | list items => some items
  | _ => none

/-- The integer of 64 bits that a number is. -/
def int? : Value → Option Int
  | number literal => Text.readInt64? literal.toList
  | _ => none

/-- The value of the first field with a name. -/
def field? (name : String) : Value → Option Value
  | record fields => (fields.find? (·.1 == name)).map (·.2)
  | _ => none

end Value

/-- A field of a record. -/
abbrev Field := String × Value

/-- A field that is left out when it is absent. -/
def field? {α : Type} (name : String) (value? : Option α) (encode : α → Value) : List Field :=
  match value? with
  | none => []
  | some value => [(name, encode value)]

end MessageCatalog.Data
