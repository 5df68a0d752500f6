import Std.Data.HashMap
import MessageCatalog.Catalog.Basic
import MessageCatalog.Language.PluralRule
import MessageCatalog.Lookup.Substitution

/-!
# Looking up texts

A chain of catalogs answers what to show for a source string, the most specific catalog first. Each
catalog of the chain is a layer: an index of the messages that may be shown, by context and source.
These are the finished messages with text, and the unfinished ones with text where the policy allows
them.

A key is looked for with its comment in every layer, and after that without the comment. What is not
found is shown as its source.
-/

namespace MessageCatalog.Lookup

open MessageCatalog.Language

/-- What may be shown. -/
structure Policy where
  includeUnfinished : Bool := false
  deriving DecidableEq, Repr

/-- The message may be shown. -/
def isUsable (policy : Policy) (m : Message) : Bool :=
  (match m.status with
   | .finished => true
   | .unfinished => policy.includeUnfinished
   | .vanished | .obsolete => false) && !m.target.isEmpty

/-- A text that may be shown, with the comment that it is looked up by. -/
structure Entry where
  comment : String
  target : Target
  deriving DecidableEq, Repr

/-- Texts by context and then by source. Those with one context and one source stand in the order in
which they were added. -/
abbrev Index := Std.HashMap String (Std.HashMap String (List Entry))

namespace Index

/-- Add the text of a message. -/
def add (index : Index) (context : String) (m : Message) : Index :=
  index.alter context fun sources? =>
    some ((sources?.getD {}).alter m.source fun entries? =>
      some (entries?.getD [] ++ [⟨m.commentKey, m.target⟩]))

/-- The text that was added first with a key in a context. -/
def get? (index : Index) (context : String) (key : Key) : Option Target := do
  let sources ← index[context]?
  let entries ← sources[key.source]?
  (entries.find? (·.comment = key.comment)).map (·.target)

end Index

/-- The texts of one catalog that may be shown. -/
structure Layer where
  language : String
  rule : PluralRule
  index : Index
  deriving Repr

namespace Layer

def ofCatalog (policy : Policy) (c : Catalog) : Layer where
  language := c.languageCode
  rule := .ofLocale c.languageCode
  index := (c.entries.filter (isUsable policy ·.2)).foldl (fun index (context, m) =>
    index.add context m) {}

/-- The first text with a key in a context. -/
def get? (l : Layer) (context : String) (key : Key) : Option Target :=
  l.index.get? context key

end Layer

/-- The layers of a chain, the most specific first. -/
structure Chain where
  layers : List Layer := []
  deriving Repr

namespace Chain

def ofCatalogs (policy : Policy) (catalogs : List Catalog) : Chain :=
  ⟨catalogs.map (Layer.ofCatalog policy)⟩

/-- The languages of the layers. -/
def languages (t : Chain) : List String :=
  t.layers.map (·.language)

/-- The first layer with a key, and its text. -/
def get? (t : Chain) (context : String) (key : Key) : Option (PluralRule × Target) :=
  t.layers.findSome? fun l => (l.get? context key).map fun target => (l.rule, target)

/-- What is found for a source string and a comment. -/
def resolve? (t : Chain) (context source : String) (comment : Option String) :
    Option (PluralRule × Target) :=
  let comment := comment.getD ""
  (t.get? context ⟨source, comment⟩).or
    (if comment = "" then none else t.get? context ⟨source, ""⟩)

/-- Something is found. -/
def contains (t : Chain) (context source : String) (comment : Option String) : Bool :=
  (t.resolve? context source comment).isSome

/-- The text to show without a count. Of several forms it is the first with text. -/
def text (t : Chain) (context source : String) (comment : Option String) : String :=
  match t.resolve? context source comment with
  | some (_, .single text) => text
  | some (_, .plural forms) => (forms.find? (· != "")).getD source
  | none => source

/-- The text to show for a count, before the count is filled in. Of several forms it is the one that
the rule of the layer picks, or the last one if there are too few; a form without text gives way to
the source. -/
def template (t : Chain) (context source : String) (comment : Option String) (n : Int) : String :=
  match t.resolve? context source comment with
  | some (_, .single text) => text
  | some (rule, .plural forms) =>
    match forms[min (rule.formIndex n) (forms.length - 1)]? with
    | some form => if form = "" then source else form
    | none => source
  | none => source

/-- The text to show for a count. -/
def textForCount (t : Chain) (context source : String) (comment : Option String) (n : Int) :
    String :=
  replaceCount (t.template context source comment n) n

end Chain

end MessageCatalog.Lookup
