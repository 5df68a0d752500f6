import MessageCatalog.Data.Yaml.Node

/-!
# Reading YAML

A document is read from the tokens of its stream. A stream holds one document at most; directives in
front of it give meanings to the handles of tags.

Anchors are numbered, and an alias stands for the node with its number. A name that is used for the
first time takes the next number. When a name is used again, its number becomes the one that the
next new name will take, so that both then share a number. Of several nodes with a number the one
that starts last counts, for all aliases with that number.
-/

namespace MessageCatalog.Data.Yaml

/-- A node with an anchor: its number, and how many such nodes start before it. -/
structure Anchored where
  number : Nat
  order : Nat
  node : Node

/-- What is left of the tokens, and what is known of anchors. -/
structure Reading where
  tokens : List Token
  handles : List (List Char × List UInt8)
  /-- The numbers of the names of anchors, latest first. -/
  numbers : List (List Char × Nat) := []
  /-- How many different names anchors have. -/
  names : Nat := 0
  /-- How many nodes with anchors have started. -/
  started : Nat := 0
  anchored : List Anchored := []
  /-- How many events the nodes so far take. -/
  events : Nat := 0

/-- A step that may fail. -/
abbrev Read (α : Type) := StateT Reading Option α

namespace Read

/-- Fail. -/
def refuse {α : Type} : Read α := fun _ => none

/-- The next token. -/
def peek? : Read (Option Token) := do
  return (← get).tokens.head?

/-- Pass over a token. -/
def skip : Read Unit :=
  modify fun r => { r with tokens := r.tokens.drop 1 }

/-- Pass over a token if it comes next. -/
def skipIf (t : Token) : Read Bool := do
  if (← peek?) == some t then
    skip
    return true
  else return false

/-- The next token is one of some tokens, or there is none. -/
def endsBefore (ts : List Token) : Read Bool := do
  match ← peek? with
  | some t => return ts.contains t
  | none => return false

/-- The meaning of a tag. -/
def resolve (t : Tag) : Read (List UInt8) := do
  if t.handle.isEmpty then return t.suffix
  else
    match (← get).handles.lookup t.handle with
    | some meaning => return meaning ++ t.suffix
    | none => refuse

/-- The anchor and the tag in front of a node, in either order. -/
def properties : Read (Option (List Char) × Option (List UInt8)) := do
  match ← peek? with
  | some (.anchor name) =>
    skip
    match ← peek? with
    | some (.tag t) =>
      skip
      return (some name, some (← resolve t))
    | _ => return (some name, none)
  | some (.tag t) =>
    skip
    let anchor? ← do
      match ← peek? with
      | some (.anchor name) =>
        skip
        pure (some name)
      | _ => pure none
    return (anchor?, some (← resolve t))
  | _ => return (none, none)

/-- A node with an anchor starts. Its number and its order are kept for its end. -/
def start (anchor? : Option (List Char)) : Read (Option (Nat × Nat)) := do
  match anchor? with
  | none => return none
  | some name =>
    let r ← get
    let isNew := (r.numbers.lookup name).isNone
    set { r with
      numbers := (name, r.names) :: r.numbers
      names := if isNew then r.names + 1 else r.names
      started := r.started + 1 }
    return some (r.names, r.started)

/-- A node ends that takes some events by itself. -/
def finish (place? : Option (Nat × Nat)) (events : Nat) (node : Node) : Read Node := do
  modify fun r => { r with
    events := r.events + events
    anchored := match place? with
      | some (number, order) => { number, order, node } :: r.anchored
      | none => r.anchored }
  return node

/-- Nothing stands where a node could. -/
def absent : Read Node :=
  finish none 1 .absent

/-- An alias of the node with an anchor, which has to come before it. -/
def aliasOf (name : List Char) : Read Node := do
  match (← get).numbers.lookup name with
  | some number => finish none 1 (.reference number)
  | none => refuse

mutual

/-- A node. In block style a list or record may be indented, and the items of a list may also stand
below the name of a field without being indented. -/
def node (fuel : Nat) (block aligned : Bool) : Read Node := do
  match fuel with
  | 0 => refuse
  | fuel + 1 =>
    if let some (.reference name) ← peek? then
      skip
      aliasOf name
    else
      let (anchor?, tag?) ← properties
      let place? ← start anchor?
      match ← peek? with
      | some .blockEntry =>
        if aligned then finish place? 2 (.list tag? (← alignedItems fuel []))
        else tagged anchor? tag? place?
      | some (.text written chars) =>
        skip
        finish place? 1 (.text tag? written (String.ofList chars))
      | some .flowListStart =>
        skip
        finish place? 2 (.list tag? (← flowItems fuel true []))
      | some .flowRecordStart =>
        skip
        finish place? 2 (.record tag? (← flowFields fuel true []))
      | some .blockListStart =>
        if block then
          skip
          finish place? 2 (.list tag? (← blockItems fuel []))
        else tagged anchor? tag? place?
      | some .blockRecordStart =>
        if block then
          skip
          finish place? 2 (.record tag? (← blockFields fuel []))
        else tagged anchor? tag? place?
      | _ => tagged anchor? tag? place?

/-- Nothing but an anchor or a tag, which stand for an empty text. -/
def tagged (anchor? : Option (List Char)) (tag? : Option (List UInt8))
    (place? : Option (Nat × Nat)) : Read Node := do
  if anchor?.isSome || tag?.isSome then finish place? 1 (.text tag? .plain "") else refuse

/-- A node, or nothing if one of some tokens comes next. -/
def nodeUnless (fuel : Nat) (block aligned : Bool) (ends : List Token) : Read Node := do
  match fuel with
  | 0 => refuse
  | fuel + 1 => if ← endsBefore ends then absent else node fuel block aligned

/-- The items of a list in block style, up to its end, behind those already read. -/
def blockItems (fuel : Nat) (items : List Node) : Read (List Node) := do
  match fuel with
  | 0 => refuse
  | fuel + 1 =>
    if ← skipIf .blockEntry then
      let item ← nodeUnless fuel true false [.blockEntry, .blockEnd]
      blockItems fuel (item :: items)
    else if ← skipIf .blockEnd then return items.reverse
    else refuse

/-- The items of a list that is not indented, behind those already read. -/
def alignedItems (fuel : Nat) (items : List Node) : Read (List Node) := do
  match fuel with
  | 0 => refuse
  | fuel + 1 =>
    if ← skipIf .blockEntry then
      let item ← nodeUnless fuel true false [.blockEntry, .name, .value, .blockEnd]
      alignedItems fuel (item :: items)
    else return items.reverse

/-- The fields of a record in block style, up to its end, behind those already read. -/
def blockFields (fuel : Nat) (fields : List (Node × Node)) : Read (List (Node × Node)) := do
  match fuel with
  | 0 => refuse
  | fuel + 1 =>
    if ← skipIf .name then
      let name ← nodeUnless fuel true true [.name, .value, .blockEnd]
      let value ←
        if ← skipIf .value then nodeUnless fuel true true [.name, .value, .blockEnd]
        else absent
      blockFields fuel ((name, value) :: fields)
    else if ← skipIf .blockEnd then return fields.reverse
    else refuse

/-- The items of a list in flow style, up to its end, behind those already read. A name makes a
record of one field. -/
def flowItems (fuel : Nat) (first : Bool) (items : List Node) : Read (List Node) := do
  match fuel with
  | 0 => refuse
  | fuel + 1 =>
    if ← skipIf .flowListEnd then return items.reverse
    let parted ← if first then pure true else skipIf .flowEntry
    if !parted then refuse
    else if ← skipIf .flowListEnd then return items.reverse
    else if ← skipIf .name then
      let name ←
        if ← endsBefore [.value, .flowEntry, .flowListEnd] then
          skip
          absent
        else node fuel false false
      let value ←
        if ← skipIf .value then nodeUnless fuel false false [.flowEntry, .flowListEnd]
        else absent
      let item ← finish none 2 (.record none [(name, value)])
      flowItems fuel false (item :: items)
    else
      let item ← node fuel false false
      flowItems fuel false (item :: items)

/-- The fields of a record in flow style, up to its end, behind those already read. -/
def flowFields (fuel : Nat) (first : Bool) (fields : List (Node × Node)) :
    Read (List (Node × Node)) := do
  match fuel with
  | 0 => refuse
  | fuel + 1 =>
    if ← skipIf .flowRecordEnd then return fields.reverse
    let parted ← if first then pure true else skipIf .flowEntry
    if !parted then refuse
    else if ← skipIf .flowRecordEnd then return fields.reverse
    else if ← skipIf .name then
      let name ← nodeUnless fuel false false [.value, .flowEntry, .flowRecordEnd]
      let value ←
        if ← skipIf .value then nodeUnless fuel false false [.flowEntry, .flowRecordEnd]
        else absent
      flowFields fuel false ((name, value) :: fields)
    else
      let name ← node fuel false false
      let value ← absent
      flowFields fuel false ((name, value) :: fields)

end

/-- The directives in front of a document. -/
def directives : List Token → List Directive
  | .directive d :: rest => d :: directives rest
  | _ => []

/-- At most one directive gives the version, which is 1.1 or 1.2. -/
def isVersionAccepted (ds : List Directive) : Bool :=
  match ds.filter fun d => d matches .version .. with
  | [] => true
  | [.version major minor] => major == 1 && (minor == 1 || minor == 2)
  | _ => false

/-- The handles that directives define. -/
def definedHandles (ds : List Directive) : List (List Char × List UInt8) :=
  ds.filterMap fun
    | .handle name meaning => some (name, meaning)
    | .version .. => none

/-- The handles that need no directive. -/
def commonHandles : List (List Char × List UInt8) :=
  [(['!'], [0x21]), (['!', '!'], Node.schemaTag "")]

/-- The node of a document, if there is one, up to its end. -/
def document (fuel : Nat) : Read Node := do
  let ds := directives (← get).tokens
  let handles := definedHandles ds
  if !isVersionAccepted ds || !(handles.map (·.1)).Nodup then refuse
  else
    modify fun r => { r with tokens := r.tokens.drop ds.length, handles := handles ++ r.handles }
    let isMarked ← skipIf .documentStart
    match ← peek? with
    | none => if ds.isEmpty || isMarked then absent else refuse
    | some t =>
      if !isMarked && !ds.isEmpty then refuse
      else if isMarked && (t == .documentStart || t == .documentEnd || t matches .directive _) then
        absent
      else node fuel true false

/-- Pass over the marks of the end of a document. -/
def skipEnds : Read Unit :=
  modify fun r => { r with tokens := r.tokens.dropWhile (· == .documentEnd) }

end Read

/-- What the numbers of anchors stand for. -/
def targets (names : Nat) (anchored : List Anchored) : Array (Option Node) :=
  (anchored.foldl keepLatest (Array.replicate names none)).map (·.map (·.node))
where
  /-- Of two nodes with a number, keep the one that starts later. -/
  keepLatest (latest : Array (Option Anchored)) (a : Anchored) : Array (Option Anchored) :=
    latest.modify a.number fun
      | some b => some (if a.order < b.order then b else a)
      | none => some a

/-- The document of a stream. A stream without a document is an empty one. -/
def read? (s : List Char) : Option Document := do
  let tokens ← tokens? s
  let fuel := 4 * tokens.length + 8
  let (root, r) ← (do
    let node ← Read.document fuel
    Read.skipEnds
    return node : Read Node).run { tokens, handles := Read.commonHandles }
  if r.tokens.isEmpty then
    some { root, targets := targets (r.names + 1) r.anchored, events := r.events }
  else none

end MessageCatalog.Data.Yaml
