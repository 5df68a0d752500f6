import MessageCatalog.Data.Value

/-!
# Reading records from data

What can be read from a data file, whatever its format. A record is read by the names of its fields:
other fields are passed over, and a name that is looked for may not occur twice. A value of one of
several kinds gives the name of its kind and what it holds.

Reading goes in steps that may fail. What else a step does depends on the format, so all of this is
written for any kind of steps.
-/

namespace MessageCatalog.Data

/-- Data of a format, from which records can be read in steps of some kind. -/
class Source (ν : Type) (m : Type → Type) where
  text : ν → m String
  bool : ν → m Bool
  list : ν → m (List ν)
  /-- The values of the fields of a record with some names, absent ones as `none`. -/
  fields : List String → ν → m (List (Option ν))
  /-- The value, unless it says that nothing is there. -/
  content? : ν → m (Option ν)
  /-- The name of a kind, and what a value of that kind holds. -/
  kind : ν → m (String × Option ν)

/-- The values of the fields with some names, absent ones as `none`. -/
def fieldsByName? {ν : Type} (names : List String) (fields : List (String × ν)) :
    Option (List (Option ν)) :=
  names.mapM fun name =>
    match fields.filter (·.1 == name) with
    | [] => some none
    | [field] => some (some field.2)
    | _ => none

namespace Source

variable {ν : Type} {m : Type → Type} [Monad m] [MonadExcept Unit m] [Source ν m]

/-- The data has not got the shape that is wanted. -/
def refuse {α : Type} : m α :=
  throw ()

/-- Go on with what is there, or fail. -/
def demand {α : Type} (value? : Option α) : m α :=
  match value? with
  | some value => pure value
  | none => refuse

/-- A field that has to be there. -/
def required {α : Type} (read : ν → m α) (value? : Option ν) : m α := do
  read (← demand value?)

/-- A field that has a default. -/
def orElse {α : Type} (default : α) (read : ν → m α) : Option ν → m α
  | none => pure default
  | some value => read value

/-- A text that may be absent. -/
def optionalText : Option ν → m (Option String)
  | none => pure none
  | some value => do
    match ← content? value with
    | none => pure none
    | some value => return some (← text value)

/-- A list whose items all have a shape. -/
def listOf {α : Type} (item : ν → m α) (value : ν) : m (List α) := do
  (← list value).mapM item

/-- The name of a kind whose values hold nothing. -/
def name (value : ν) : m String := do
  let (name, value?) ← kind value
  match value? with
  | none => pure name
  | some value => if (← content? value).isSome then refuse else pure name

end Source

namespace Value

/-- The fields of a record by their names. The list of all its values in order is a record too. -/
def fieldsOf? (names : List String) : Value → Option (List (Option Value))
  | .record fields => fieldsByName? names fields
  | .list items => if items.length = names.length then some (items.map some) else none
  | _ => none

/-- A kind is its name alone, or the name of the only field of a record. -/
def kindOf? : Value → Option (String × Option Value)
  | .text name => some (name, none)
  | .record [(name, value)] => some (name, some value)
  | _ => none

instance : Source Value Option where
  text := text?
  bool := bool?
  list := list?
  fields := fieldsOf?
  content?
    | .null => some none
    | value => some (some value)
  kind := kindOf?

end Value

end MessageCatalog.Data
