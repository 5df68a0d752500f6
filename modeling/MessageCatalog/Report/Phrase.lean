import MessageCatalog.Check.Issue
import MessageCatalog.Report.Style
import MessageCatalog.Text.Rounding

/-!
# Phrases of reports

How reports write texts, severities and shares.
-/

namespace MessageCatalog.Report

/-- A text in quotes. Line breaks are shown as escapes. -/
def quote (s : String) : String :=
  "\x22" ++ String.ofList (s.toList.flatMap fun c => if c = '\n' then ['\\', 'n'] else [c]) ++
    "\x22"

/-- The name of a severity in its colour. -/
def severityLabel (severity : Check.Severity) : Piece :=
  styled (match severity with
    | .error => .error
    | .warning => .warning
    | .note => .blue) severity.name

/-- A share as a percentage with one decimal place, right-aligned. -/
def percentage (share : Text.BinaryFraction) : String :=
  let digits := (share.scale 100).decimal 1
  String.ofList (List.replicate (5 - digits.length) ' ' ++ digits ++ ['%'])

/-- A number as text. -/
def number (n : Nat) : String :=
  String.ofList (Text.decimal n)

/-- The title of a report. -/
def title (words : String) : Line :=
  [styled .heading ("=== " ++ words ++ " ===")]

/-- An empty line. -/
def emptyLine : Line := []

end MessageCatalog.Report
