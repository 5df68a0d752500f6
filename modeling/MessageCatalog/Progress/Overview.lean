import MessageCatalog.Language.Names
import MessageCatalog.Progress.Counts
import MessageCatalog.Text.Rounding

/-!
# The progress of a catalog

The counts of a catalog as a whole and of each of its contexts, with what is known of its language.
The progress of a catalog that was read from a file also has the path and the digest of the file.

A catalog is complete as far as the messages in use are translated; without messages in use it is
complete.
-/

namespace MessageCatalog.Progress

open Data

/-- The progress of one context. -/
structure ContextProgress where
  name : String
  counts : Counts
  translated : Nat
  deriving DecidableEq, Repr

/-- The progress of a catalog. -/
structure Overview where
  path : Option String := none
  language : Option String := none
  names : Option Language.Names := none
  version : String
  contextCount : Nat
  messageCount : Nat
  numerus : Nat
  counts : Counts
  translated : Nat
  digest : Option String := none
  contexts : List ContextProgress
  deriving DecidableEq, Repr

def ContextProgress.ofContext (c : Context) : ContextProgress where
  name := c.name
  counts := .ofMessages c.messages
  translated := countTranslated c.messages

namespace Overview

def ofCatalog (c : Catalog) : Overview where
  language := c.language
  names := c.language.bind Language.names?
  version := c.version
  contextCount := c.contexts.length
  messageCount := c.messageCount
  numerus := countNumerus (c.contexts.flatMap (·.messages))
  counts := .ofMessages (c.contexts.flatMap (·.messages))
  translated := countTranslated (c.contexts.flatMap (·.messages))
  contexts := c.contexts.map .ofContext

/-- The share of the messages in use that are translated. -/
def completion (o : Overview) : Text.BinaryFraction :=
  if o.counts.active = 0 then .ofQuotient 1 1 else .ofQuotient o.translated o.counts.active

/-- The share of translated messages in use is at least so many thousandths. -/
def reaches (o : Overview) (thousandths : Nat) : Bool :=
  o.counts.active == 0 || decide (thousandths * o.counts.active ≤ 1000 * o.translated)

end Overview

def ContextProgress.toData (c : ContextProgress) : Value :=
  .record [("name", .text c.name), ("counts", c.counts.toData), ("translated", .nat c.translated)]

def Overview.toData (o : Overview) : Value :=
  .record (field? "path" o.path .text ++ field? "language" o.language .text ++
    field? "language_name" (o.names.map (·.english)) .text ++
    field? "native_name" (o.names.map (·.native)) .text ++
    [("version", .text o.version), ("contexts", .nat o.contextCount),
      ("messages", .nat o.messageCount), ("numerus", .nat o.numerus),
      ("counts", o.counts.toData), ("translated", .nat o.translated)] ++
    field? "digest" o.digest .text ++
    (if o.contexts.isEmpty then []
     else [("per_context", Value.list (o.contexts.map (·.toData)))]))

/-- The progress of some catalogs. -/
structure Survey where
  catalogs : List Overview := []
  deriving DecidableEq, Repr

def Survey.toData (s : Survey) : Value :=
  .record [("catalogs", .list (s.catalogs.map (·.toData)))]

end MessageCatalog.Progress
