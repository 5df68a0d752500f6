import MessageCatalog.Catalog.Basic
import MessageCatalog.Data.Source

/-!
# Catalogs as data

A catalog as a record for export, and back from data of any format. Absent parts are left out; an
absent part and an empty one stay apart. A target is a value tagged with its kind.
-/

namespace MessageCatalog

open Data

variable {ν : Type} {m : Type → Type} [Monad m] [MonadExcept Unit m] [Source ν m]

namespace Target

def toData : Target → Value
  | single text => .tagged "single" (.text text)
  | plural forms => .tagged "plural" (.texts forms)

def ofData (value : ν) : m Target := do
  let (kind, content?) ← Source.kind value
  let content ← Source.demand content?
  if kind = "single" then return single (← Source.text content)
  else if kind = "plural" then return plural (← Source.listOf Source.text content)
  else Source.refuse

end Target

namespace Status

def toData (s : Status) : Value := .text s.name

def ofData (value : ν) : m Status := do
  Source.demand (ofName? (← Source.name value))

end Status

namespace Location

def toData (l : Location) : Value :=
  .record (field? "filename" l.filename .text ++ field? "line" l.line .text)

def ofData (value : ν) : m Location := do
  match ← Source.fields ["filename", "line"] value with
  | [filename, line] =>
    pure { filename := ← Source.optionalText filename, line := ← Source.optionalText line }
  | _ => Source.refuse

end Location

namespace Message

def toData (m : Message) : Value :=
  .record (field? "id" m.id .text ++
    [("numerus", .bool m.numerus)] ++
    (if m.locations.isEmpty then []
     else [("locations", Value.list (m.locations.map (·.toData)))]) ++
    [("source", .text m.source)] ++
    field? "old_source" m.oldSource .text ++
    field? "comment" m.comment .text ++
    field? "old_comment" m.oldComment .text ++
    field? "extra_comment" m.extraComment .text ++
    field? "translator_comment" m.translatorComment .text ++
    [("translation", m.target.toData), ("status", m.status.toData)])

/-- The names of the fields of a message. -/
def fieldNames : List String :=
  ["id", "numerus", "locations", "source", "old_source", "comment", "old_comment",
    "extra_comment", "translator_comment", "translation", "status"]

/-- A message is read from its fields; only its flag and its places have a default. -/
def ofData (value : ν) : m Message := do
  match ← Source.fields fieldNames value with
  | [id, numerus, locations, source, oldSource, comment, oldComment, extraComment,
      translatorComment, target, status] =>
    pure {
      id := ← Source.optionalText id
      numerus := ← Source.orElse false Source.bool numerus
      locations := ← Source.orElse [] (Source.listOf Location.ofData) locations
      source := ← Source.required Source.text source
      oldSource := ← Source.optionalText oldSource
      comment := ← Source.optionalText comment
      oldComment := ← Source.optionalText oldComment
      extraComment := ← Source.optionalText extraComment
      translatorComment := ← Source.optionalText translatorComment
      target := ← Source.required Target.ofData target
      status := ← Source.required Status.ofData status }
  | _ => Source.refuse

end Message

namespace Context

def toData (c : Context) : Value :=
  .record ([("name", .text c.name)] ++ field? "comment" c.comment .text ++
    [("messages", .list (c.messages.map (·.toData)))])

def ofData (value : ν) : m Context := do
  match ← Source.fields ["name", "comment", "messages"] value with
  | [name, comment, messages] =>
    pure {
      name := ← Source.required Source.text name
      comment := ← Source.optionalText comment
      messages := ← Source.required (Source.listOf Message.ofData) messages }
  | _ => Source.refuse

end Context

namespace Catalog

def toData (c : Catalog) : Value :=
  .record ([("version", .text c.version)] ++ field? "language" c.language .text ++
    field? "source_language" c.sourceLanguage .text ++
    [("contexts", .list (c.contexts.map (·.toData)))])

def ofData (value : ν) : m Catalog := do
  match ← Source.fields ["version", "language", "source_language", "contexts"] value with
  | [version, language, sourceLanguage, contexts] =>
    pure {
      version := ← Source.required Source.text version
      language := ← Source.optionalText language
      sourceLanguage := ← Source.optionalText sourceLanguage
      contexts := ← Source.required (Source.listOf Context.ofData) contexts }
  | _ => Source.refuse

end Catalog

end MessageCatalog
