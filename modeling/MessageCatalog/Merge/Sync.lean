import MessageCatalog.Catalog.Basic
import MessageCatalog.Language.PluralRule
import MessageCatalog.Merge.Summary

/-!
# Bringing a catalog up to date

A template lists the messages that are in use now. `sync` merges the texts of an existing catalog
into it. The result has the contexts and messages of the template in their order; messages that are
no longer in use follow the live ones of their context, retired with their text; and contexts that
the template does not have come last, as long as messages are left in them.

A message of the template takes its text from the message of the existing catalog with its key. A
new message may take the text of a finished message with an equal source and comment in any context.

Each message is settled by itself, so the result and the summary are put together from the parts.
-/

namespace MessageCatalog.Merge

open MessageCatalog.Language

structure Options where
  /-- Drop retired messages. -/
  dropObsolete : Bool := false
  /-- Leave new messages without text. -/
  noSameText : Bool := false
  deriving DecidableEq, Repr

/-- A text of the other shape, which keeps the first form that has text. -/
def reshape (t : Target) (numerus : Bool) (formCount : Nat) : Target :=
  let first := t.firstText?.getD ""
  if numerus then .plural (first :: List.replicate (formCount - 1) "") else .single first

/-- No text, in the shape that a message needs. -/
def emptyTarget (numerus : Bool) (formCount : Nat) : Target :=
  if numerus then .plural (List.replicate formCount "") else .single ""

/-- The text has the shape that a message needs. -/
def fits (t : Target) (numerus : Bool) : Bool :=
  match t with
  | .single _ => !numerus
  | .plural _ => numerus

/-- The status of a message that is in use again. -/
def revivedStatus : Status → Status
  | .finished | .vanished => .finished
  | .unfinished | .obsolete => .unfinished

/-- The status of a message that is no longer in use. -/
def retiredStatus : Status → Status
  | .finished | .vanished => .vanished
  | .unfinished | .obsolete => .obsolete

/-- A message of the template with what a translator has given to the earlier message. When the
shape of the text changes, the message is unfinished. -/
def refresh (previous template : Message) (formCount : Nat) : Message :=
  let sameShape := previous.numerus == template.numerus
  { template with
    oldSource := previous.oldSource
    oldComment := previous.oldComment
    translatorComment := previous.translatorComment
    target :=
      if sameShape then previous.target else reshape previous.target template.numerus formCount
    status := if sameShape then revivedStatus previous.status else .unfinished }

/-- A message of the template that is new, with a text. -/
def fresh (template : Message) (target : Target) : Message :=
  { template with
    oldSource := none, oldComment := none, translatorComment := none
    target
    status := .unfinished }

/-- The text of the first finished message with a key, in whatever context. -/
def sameText? (existing : Catalog) (key : Key) : Option Target :=
  (existing.entries.find? fun (_, m) => m.isTranslated && decide (m.key = key)).map (·.2.target)

/-- The text of an equal string that a new message can take. -/
def reusable? (existing : Catalog) (options : Options) (template : Message) : Option Target :=
  if options.noSameText then none
  else (sameText? existing template.key).filter (fits · template.numerus)

/-- A message of the template, settled: the message of the result and its share of the summary. -/
def settle (existing : Catalog) (options : Options) (formCount : Nat) (previous : Option Message)
    (template : Message) : Message × Summary :=
  match previous with
  | some previous =>
    (refresh previous template formCount,
      if previous.isActive then { kept := 1 } else { revived := 1 })
  | none =>
    match reusable? existing options template with
    | some target => (fresh template target, { sameText := 1 })
    | none => (fresh template (emptyTarget template.numerus formCount), { added := 1 })

/-- The template has a message with a key in a context with a name. -/
def inTemplate (template : Catalog) (context : String) (key : Key) : Bool :=
  template.entries.any fun (name, m) => decide (name = context ∧ m.key = key)

/-- The summary of a message that is retired. -/
def retiredSummary : Status → Summary
  | .finished => { vanished := 1 }
  | .unfinished => { obsoleted := 1 }
  | .vanished | .obsolete => {}

/-- What becomes of the messages of an existing context that are not settled: the retired messages
and the summary. Later messages with the key of a live one are dropped. -/
def retire (template : Catalog) (options : Options) (context : String) (live : List Key) :
    List Message → List Message × Summary
  | [] => ([], {})
  | m :: rest =>
    if inTemplate template context m.key then
      let (retired, summary) := retire template options context (m.key :: live) rest
      (retired, if live.contains m.key then Summary.add { dropped := 1 } summary else summary)
    else
      let (retired, summary) := retire template options context live rest
      if options.dropObsolete || m.target.isEmpty then
        (retired, Summary.add { dropped := 1 } summary)
      else
        ({ m with status := retiredStatus m.status } :: retired,
          (retiredSummary m.status).add summary)

/-- A context of the template, settled. -/
def settleContext (existing template : Catalog) (options : Options) (formCount : Nat)
    (context : Context) : Context × Summary :=
  let old? := existing.context? context.name
  let settled := context.messages.map fun m =>
    settle existing options formCount (old?.bind (·.find? m.key)) m
  let (retired, summary) := match old? with
    | some old => retire template options old.name [] old.messages
    | none => ([], {})
  ({ name := context.name
     comment := context.comment.or (old?.bind (·.comment))
     messages := settled.map (·.1) ++ retired },
    (Summary.sum (settled.map (·.2))).add summary)

/-- A context that the template does not have, with its messages retired. -/
def retireContext (template : Catalog) (options : Options) (old : Context) : Context × Summary :=
  let (retired, summary) := retire template options old.name [] old.messages
  ({ old with messages := retired }, summary)

/-- Merge an existing catalog into a template. -/
def sync (existing template : Catalog) (options : Options) : Catalog × Summary :=
  let formCount := (PluralRule.ofLocale existing.languageCode).formCount
  let settled := template.contexts.map (settleContext existing template options formCount)
  let gone := existing.contexts.filter fun c => (template.context? c.name).isNone
  let retired := gone.map (retireContext template options)
  ({ version := existing.version
     language := existing.language
     sourceLanguage := existing.sourceLanguage.or template.sourceLanguage
     contexts := settled.map (·.1) ++ (retired.map (·.1)).filter (!·.messages.isEmpty) },
    Summary.sum ((settled ++ retired).map (·.2)))

end MessageCatalog.Merge
