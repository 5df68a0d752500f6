import Std.Data.HashMap
import MessageCatalog.Catalog.Basic
import MessageCatalog.Data.Value

/-!
# Comparing catalogs

Two catalogs are compared message by message. Messages belong together when they stand at one place:
their contexts have one name and their keys are equal. Each catalog is indexed by its places, and
among several messages at one place the last is compared with.

The changes come in the order of the newer catalog: what is new, and for what was there before first
a change of the text and then a change of the status. What is gone comes last, in the order of the
older catalog.
-/

namespace MessageCatalog.Compare

open Data

inductive ChangeKind where
  | added
  | removed
  | textChanged
  | statusChanged
  deriving DecidableEq, Repr

namespace ChangeKind

/-- All kinds, in the order in which they are counted. -/
def all : List ChangeKind := [added, removed, textChanged, statusChanged]

def name : ChangeKind → String
  | added => "added"
  | removed => "removed"
  | textChanged => "translation-changed"
  | statusChanged => "status-changed"

end ChangeKind

/-- One change of a message. -/
structure Change where
  kind : ChangeKind
  context : String
  source : String
  /-- The comment of the message, unless it is empty. -/
  comment : Option String := none
  before : Option String := none
  after : Option String := none
  deriving DecidableEq, Repr

/-- The forms of a target in one text. -/
def display (t : Target) : String :=
  " | ".intercalate t.forms

/-- A change of a message, with what was before and what is after. -/
def Change.of (kind : ChangeKind) (context : String) (m : Message) (before after : Option String) :
    Change where
  kind
  context
  source := m.source
  comment := m.comment.filter (· != "")
  before
  after

/-- The place of a message: its context and its key. -/
def placeOf (e : String × Message) : String × Key :=
  (e.1, e.2.key)

/-- Messages by their places. -/
abbrev Index := Std.HashMap (String × Key) Message

/-- The messages of a catalog by their places. Of several at one place the last is kept. -/
def Index.ofCatalog (c : Catalog) : Index :=
  .ofList (c.entries.map fun e => (placeOf e, e.2))

/-- What changed between two messages. -/
def changesBetween (context : String) (before after : Message) : List Change :=
  (if before.target = after.target then [] else
    [.of .textChanged context after (display before.target) (display after.target)]) ++
  (if before.status = after.status then [] else
    [.of .statusChanged context after before.status.name after.status.name])

/-- What became of a message of the newer catalog. -/
def changesOf (base : Index) (e : String × Message) : List Change :=
  match base[placeOf e]? with
  | none => [.of .added e.1 e.2 none (display e.2.target)]
  | some before => changesBetween e.1 before e.2

/-- All changes from a catalog to a newer one. -/
def changes (base newer : Catalog) : List Change :=
  let baseIndex := Index.ofCatalog base
  let newerIndex := Index.ofCatalog newer
  newer.entries.flatMap (changesOf baseIndex) ++
    (base.entries.filter fun e => !newerIndex.contains (placeOf e)).map fun e =>
      .of .removed e.1 e.2 (display e.2.target) none

/-- Two catalogs compared, with the labels under which they are reported. -/
structure Comparison where
  baseLabel : String
  newerLabel : String
  changes : List Change
  deriving DecidableEq, Repr

namespace Comparison

/-- Compare a catalog with a newer one. -/
def ofCatalogs (base newer : Catalog) (baseLabel newerLabel : String) : Comparison where
  baseLabel
  newerLabel
  changes := Compare.changes base newer

/-- Nothing changed. -/
def isEmpty (c : Comparison) : Bool :=
  c.changes.isEmpty

/-- How many changes are of a kind. -/
def count (c : Comparison) (kind : ChangeKind) : Nat :=
  c.changes.countP (·.kind = kind)

end Comparison

def Change.toData (c : Change) : Value :=
  .record ([("kind", .text c.kind.name), ("context", .text c.context),
    ("source", .text c.source)] ++ field? "comment" c.comment .text ++
    field? "before" c.before .text ++ field? "after" c.after .text)

def Comparison.toData (c : Comparison) : Value :=
  .record [("base_label", .text c.baseLabel), ("compare_label", .text c.newerLabel),
    ("changes", .list (c.changes.map (·.toData)))]

/-- Messages with equal targets and equal statuses have not changed. -/
theorem changesBetween_eq_nil_iff {context : String} {before after : Message} :
    changesBetween context before after = [] ↔
      before.target = after.target ∧ before.status = after.status := by
  unfold changesBetween
  by_cases ht : before.target = after.target <;> by_cases hs : before.status = after.status <;>
    simp [ht, hs]

end MessageCatalog.Compare
