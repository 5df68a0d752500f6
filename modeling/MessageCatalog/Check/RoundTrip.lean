import MessageCatalog.Catalog.Parsing
import MessageCatalog.Catalog.Printing
import MessageCatalog.Check.Issue

/-!
# What does not survive writing

A catalog is written and read back, and whatever is different then is a finding. Contexts are
compared in order, and the messages of a context only as long as its name and their number agree.
-/

namespace MessageCatalog.Check

/-- The messages of a context that are different now. -/
def compareMessages (context : String) (before after : List Message) : List Issue :=
  (before.zip after).filterMap fun (a, b) =>
    if a = b then none
    else
      some {
        kind := .roundTripLoss
        context
        source := some a.source
        detail := "message differs after serialization" }

/-- What is different in a context now. -/
def compareContext (before after : Context) : List Issue :=
  if before.messages.length ≠ after.messages.length ∨ before.name ≠ after.name then
    [{ kind := .roundTripLoss
       context := before.name
       detail := s!"context changed from {before.messages.length} to " ++
         s!"{after.messages.length} messages" }]
  else compareMessages before.name before.messages after.messages

/-- What is different in the header now. -/
def compareHeader (before after : Catalog) : List Issue :=
  if after.version ≠ before.version ∨ after.language ≠ before.language ∨
      after.sourceLanguage ≠ before.sourceLanguage then
    [{ kind := .roundTripLoss, detail := "catalog header changed after serialization" }]
  else []

/-- What is different in the contexts now. -/
def compareContexts (before after : Catalog) : List Issue :=
  if after.contexts.length ≠ before.contexts.length then
    [{ kind := .roundTripLoss
       detail := s!"context count changed from {before.contexts.length} to " ++
         s!"{after.contexts.length}" }]
  else (before.contexts.zip after.contexts).flatMap fun (a, b) => compareContext a b

/-- What is different in a catalog that has been written and read back. -/
def roundTrip (c : Catalog) : List Issue :=
  match Catalog.parseChars c.printChars with
  | .error fault =>
    [{ kind := .roundTripLoss
       detail := "serialized catalog does not parse: " ++ fault.message }]
  | .ok after => compareHeader c after ++ compareContexts c after

end MessageCatalog.Check
