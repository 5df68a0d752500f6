import MessageCatalog.Catalog.Basic
import MessageCatalog.Check.Issue
import MessageCatalog.Language.PluralRule
import MessageCatalog.Text.Marker

/-!
# What is checked

The checks of the header of a catalog, of a context and of a message. Messages that are no longer in
use and those without any text are not checked for what their text holds.
-/

namespace MessageCatalog.Check

open MessageCatalog.Language

/-- The versions of the file format that are known. -/
def supportedVersions : List String := ["1.1", "2.0", "2.1"]

/-- The target language has to be named, and to be a locale. -/
def checkLanguage (c : Catalog) : List Issue :=
  if c.languageCode = "" then
    [{ kind := .unknownLanguage, detail := "catalog declares no target language" }]
  else if isLocale c.languageCode then []
  else
    [{ kind := .unknownLanguage
       detail := s!"'{c.languageCode}' is not an ISO 639-1 based locale" }]

/-- The version has to be a known one. -/
def checkVersion (c : Catalog) : List Issue :=
  if supportedVersions.contains c.version then []
  else [{ kind := .unsupportedVersion, detail := s!"format version '{c.version}'" }]

/-- The context has to have a name. -/
def checkContextName (c : Context) : List Issue :=
  if Text.isAllBlank c.name.toList then
    [{ kind := .emptyContextName
       context := c.name
       detail := s!"context with {c.messages.length} messages has no name" }]
  else []

/-- A message that repeats the key of an earlier one. -/
def duplicateIssue (context : String) (m : Message) : Issue :=
  { kind := .duplicateMessage
    context
    source := some m.source
    detail :=
      if m.commentKey = "" then "source appears more than once"
      else s!"source appears more than once (comment '{m.commentKey}')" }

/-- One finding for every message whose key has been seen before. -/
def checkDuplicates (context : String) (seen : List Key) : List Message → List Issue
  | [] => []
  | m :: rest =>
    if seen.contains m.key then duplicateIssue context m :: checkDuplicates context seen rest
    else checkDuplicates context (m.key :: seen) rest

def checkContext (c : Context) : List Issue :=
  checkContextName c ++ checkDuplicates c.name [] c.messages

/-- The source has to have text. -/
def checkSource (context : String) (m : Message) : List Issue :=
  if m.source = "" then
    [{ kind := .emptySource, context, detail := "message has an empty source string" }]
  else []

/-- A finished message has to have all its text. -/
def checkText (context : String) (m : Message) : List Issue :=
  if m.status = .finished ∧ ¬ m.target.isComplete then
    [{ kind := .missingText
       context
       source := some m.source
       detail := "entry is marked finished but has no translation text" }]
  else []

/-- A message with a count has to have as many forms as its language. -/
def checkForms (language context : String) (m : Message) : List Issue :=
  let expected := (PluralRule.ofLocale language).formCount
  let actual := m.target.forms.length
  if m.numerus ∧ language ≠ "" ∧ actual ≠ expected then
    [{ kind := .numerusFormCount
       context
       source := some m.source
       detail := s!"{actual} plural forms, '{language}' uses {expected}" }]
  else []

/-- The names of place markers as they are reported. -/
def describeMarkers (names : List String) : String :=
  if names.isEmpty then "no place markers" else ", ".intercalate (names.map ("%" ++ ·))

/-- The form has to have the place markers of the source. -/
def checkMarkers (context : String) (m : Message) (form : String) : List Issue :=
  let expected := Text.placeMarkers m.source m.numerus
  let actual := Text.placeMarkers form m.numerus
  if actual = expected then []
  else
    [{ kind := .placeholderMismatch
       context
       source := some m.source
       detail := "source uses " ++ describeMarkers expected ++ " but translation '" ++ form ++
         "' uses " ++ describeMarkers actual }]

/-- The form has to have an accelerator if the source has one, and only then. -/
def checkAccelerator (context : String) (m : Message) (form : String) : List Issue :=
  if Text.hasAccelerator m.source.toList = Text.hasAccelerator form.toList then []
  else
    [{ kind := .acceleratorMismatch
       context
       source := some m.source
       detail := "accelerator differs in translation '" ++ form ++ "'" }]

/-- An ending as it is reported. -/
def describeEnding (ending? : Option Text.Punctuation) : String :=
  (ending?.map (·.name)).getD "no punctuation"

/-- The form has to end in the same kind of mark as the source. -/
def checkEnding (context : String) (m : Message) (form : String) : List Issue :=
  let expected := Text.endingPunctuation? m.source.toList
  let actual := Text.endingPunctuation? form.toList
  if expected = actual then []
  else
    [{ kind := .punctuationMismatch
       context
       source := some m.source
       detail := "source ends with " ++ describeEnding expected ++ " but translation '" ++ form ++
         "' ends with " ++ describeEnding actual }]

/-- What is checked of one form that has text. -/
def checkForm (context : String) (m : Message) (form : String) : List Issue :=
  checkMarkers context m form ++ checkAccelerator context m form ++ checkEnding context m form

/-- What is checked of the texts of a message that is in use. -/
def checkTexts (language context : String) (m : Message) : List Issue :=
  if m.isActive && !m.target.isEmpty then
    checkForms language context m ++
      (m.target.forms.filter (· != "")).flatMap (checkForm context m)
  else []

def checkMessage (language context : String) (m : Message) : List Issue :=
  checkSource context m ++ checkText context m ++ checkTexts language context m

/-- All that is checked of a catalog by looking at it. -/
def checkContent (c : Catalog) : List Issue :=
  checkLanguage c ++ checkVersion c ++
    c.contexts.flatMap fun context =>
      checkContext context ++ context.messages.flatMap (checkMessage c.languageCode context.name)

end MessageCatalog.Check
