import MessageCatalog.Data.Source
import MessageCatalog.Data.Yaml.Schema
import MessageCatalog.Data.Yaml.Token

/-!
# The nodes of a YAML document

Texts, lists and records with their tags, and aliases that stand for other nodes. What a text means
depends on what is asked for: every text can be read as a text, and one that was written plain may
also be a truth value or nothing. An empty plain text is an empty list or an empty record where one
is asked for.

An alias is followed where its node is asked for and not before, so a node may hold an alias of
itself. How often aliases are followed is limited by the size of the document, lest a short document
spells out a long one.
-/

namespace MessageCatalog.Data.Yaml

inductive Node where
  | text (tag : Option (List UInt8)) (written : Written) (chars : String)
  | list (tag : Option (List UInt8)) (items : List Node)
  | record (tag : Option (List UInt8)) (fields : List (Node × Node))
  /-- The node with a number. -/
  | reference (number : Nat)
  deriving Repr

/-- What aliases stand for, and how often they may still be followed. -/
structure Following where
  targets : Array (Option Node)
  allowance : Nat

/-- A step of reading nodes. It fails when too many aliases are followed. -/
abbrev Follow (α : Type) := StateT Following Option α

namespace Node

/-- The node that stands where nothing is written. -/
def absent : Node := .text none .plain ""

/-- The node itself, or the node that it is an alias of. -/
def follow : Node → Follow Node
  | reference number => fun f =>
    match f.allowance, f.targets[number]? with
    | allowance + 1, some (some node) => some (node, { f with allowance })
    | _, _ => none
  | node => pure node

def tag? : Node → Option (List UInt8)
  | text tag _ _ => tag
  | list tag _ => tag
  | record tag _ => tag
  | reference _ => none

def withoutTag : Node → Node
  | text _ written chars => .text none written chars
  | list _ items => .list none items
  | record _ fields => .record none fields
  | reference number => .reference number

def isAbsent : Node → Bool
  | text _ .plain "" => true
  | _ => false

/-- The tag of a name in the schema. -/
def schemaTag (name : String) : List UInt8 :=
  Encoding.Utf8.encode ("tag:yaml.org,2002:" ++ name).toList

def readText (node : Node) : Follow String := do
  match ← node.follow with
  | .text _ _ chars => return chars
  | _ => Source.refuse

/-- A plain text can be a truth value, and so can a literal block with the tag of one. -/
def readBool (node : Node) : Follow Bool := do
  match ← node.follow with
  | .text tag? written chars =>
    if written = .plain ∨ (written = .literal ∧ tag? = some (schemaTag "bool")) then
      Source.demand (readBool? chars)
    else Source.refuse
  | _ => Source.refuse

def readList (node : Node) : Follow (List Node) := do
  match ← node.follow with
  | .list _ items => return items
  | node => if node.isAbsent then return [] else Source.refuse

/-- The fields of a record, whose names all have to be texts. -/
def readFields (names : List String) (node : Node) : Follow (List (Option Node)) := do
  match ← node.follow with
  | .record _ fields =>
    let fields ← fields.mapM fun (name, value) => return (← name.readText, value)
    Source.demand (fieldsByName? names fields)
  | node => if node.isAbsent then Source.demand (fieldsByName? names []) else Source.refuse

/-- A plain text may say that nothing is there. With the tag for that, it must. -/
def readContent? (node : Node) : Follow (Option Node) := do
  match ← node.follow with
  | .text none .plain chars =>
    return if isNull chars then none else some (.text none .plain chars)
  | .text (some tag) .plain chars =>
    if tag ≠ schemaTag "null" then return some (.text tag .plain chars)
    else if chars ≠ "" ∧ isNull chars then return none
    else Source.refuse
  | node => return some node

/-- The name of a kind in a tag: what follows the exclamation mark, if anything does. -/
def kindOfTag? : List UInt8 → Option String
  | 0x21 :: name =>
    let name := if name.isEmpty then [0x21] else name
    (Encoding.Utf8.decode name).toOption.map String.ofList
  | _ => none

/-- A kind is a tag in front of what it holds, or a text that is its name. -/
def readKind (node : Node) : Follow (String × Option Node) := do
  let node ← node.follow
  match node.tag?.bind kindOfTag?, node with
  | some name, _ => return (name, some node.withoutTag)
  | none, .text _ _ chars => return (chars, none)
  | none, _ => Source.refuse

instance : Source Node Follow where
  text := readText
  bool := readBool
  list := readList
  fields := readFields
  content? := readContent?
  kind := readKind

end Node

/-- A document: its node, what its aliases stand for, and how many events it takes to tell of it,
one for a text or an alias and two for a list or a record. -/
structure Document where
  root : Node
  targets : Array (Option Node)
  events : Nat

/-- Read something from a document. Aliases may be followed a hundred times for each event. -/
def Document.interpret {α : Type} (d : Document) (read : Node → Follow α) : Option α :=
  ((read d.root).run { targets := d.targets, allowance := 100 * d.events }).map (·.1)

end MessageCatalog.Data.Yaml
