import MessageCatalog.Data.Value
import MessageCatalog.Text.Blank

/-!
# Findings

What a check of a catalog can find. Every kind of finding has a severity, and severities are ordered
from notes to errors.
-/

namespace MessageCatalog.Check

inductive Severity where
  | note
  | warning
  | error
  deriving DecidableEq, Repr

namespace Severity

def all : List Severity := [note, warning, error]

def name : Severity → String
  | note => "note"
  | warning => "warning"
  | error => "error"

/-- The severity with a name. -/
def ofName? (word : String) : Option Severity :=
  all.find? (·.name == word)

/-- How severe a finding is. -/
def rank : Severity → Nat
  | note => 0
  | warning => 1
  | error => 2

/-- The severity a user means: blanks and case do not matter, and there are short names. -/
def parse? (s : String) : Option Severity :=
  let word := String.ofList (Text.lowercase (Text.trim s.toList))
  if word = "info" then some note
  else if word = "warn" then some warning
  else ofName? word

/-- The more severe of two. -/
def max (a b : Severity) : Severity :=
  if a.rank < b.rank then b else a

end Severity

inductive IssueKind where
  | emptySource
  | duplicateMessage
  | missingText
  | emptyContextName
  | placeholderMismatch
  | numerusFormCount
  | acceleratorMismatch
  | punctuationMismatch
  | unknownLanguage
  | unsupportedVersion
  | roundTripLoss
  deriving DecidableEq, Repr

namespace IssueKind

/-- All kinds, in the order in which they are listed. -/
def all : List IssueKind :=
  [emptySource, duplicateMessage, missingText, emptyContextName, placeholderMismatch,
    numerusFormCount, acceleratorMismatch, punctuationMismatch, unknownLanguage,
    unsupportedVersion, roundTripLoss]

def name : IssueKind → String
  | emptySource => "empty-source"
  | duplicateMessage => "duplicate-message"
  | missingText => "missing-translation"
  | emptyContextName => "empty-context-name"
  | placeholderMismatch => "placeholder-mismatch"
  | numerusFormCount => "numerus-form-count"
  | acceleratorMismatch => "accelerator-mismatch"
  | punctuationMismatch => "punctuation-mismatch"
  | unknownLanguage => "unknown-language"
  | unsupportedVersion => "unsupported-version"
  | roundTripLoss => "round-trip-loss"

def severity : IssueKind → Severity
  | emptySource | duplicateMessage | missingText | emptyContextName | roundTripLoss => .error
  | placeholderMismatch | numerusFormCount | acceleratorMismatch | unknownLanguage
  | unsupportedVersion => .warning
  | punctuationMismatch => .note

/-- The kind a user means: blanks and case do not matter, and underscores are hyphens. -/
def parse? (s : String) : Option IssueKind :=
  let word := (Text.lowercase (Text.trim s.toList)).map fun c => if c = '_' then '-' else c
  all.find? (·.name == String.ofList word)

end IssueKind

/-- One finding. -/
structure Issue where
  kind : IssueKind
  /-- The name of the context, empty when the finding is about the whole catalog. -/
  context : String := ""
  source : Option String := none
  detail : String
  deriving DecidableEq, Repr

namespace Issue

def severity (i : Issue) : Severity := i.kind.severity

open Data in
def toData (i : Issue) : Value :=
  .record ([("severity", .text i.severity.name), ("kind", .text i.kind.name),
    ("context", .text i.context)] ++ field? "source" i.source .text ++
    [("detail", .text i.detail)])

end Issue

/-- How many findings have a severity. -/
def count (severity : Severity) (issues : List Issue) : Nat :=
  issues.countP (·.severity = severity)

/-- The highest of some severities. -/
def highest? : List Severity → Option Severity
  | [] => none
  | s :: rest => some (rest.foldl Severity.max s)

/-- The highest severity among some findings. -/
def worst? (issues : List Issue) : Option Severity :=
  highest? (issues.map (·.severity))

end MessageCatalog.Check
