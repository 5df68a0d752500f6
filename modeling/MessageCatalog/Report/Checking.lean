import MessageCatalog.Check.FileCheck
import MessageCatalog.Report.Phrase

/-!
# Reporting a check

A head for each file, one line for each finding in it, and a summary at the end.
-/

namespace MessageCatalog.Check

open Report

/-- Where a finding is, as a reader sees it. -/
def Issue.place (i : Issue) : String :=
  match i.source with
  | some source => i.context ++ " " ++ quote source
  | none => if i.context = "" then "catalog" else i.context

/-- The line of a finding. -/
def Issue.line (i : Issue) : Line :=
  [plain "  ", severityLabel i.severity,
   plain (" [" ++ i.kind.name ++ "] " ++ i.place ++ ": " ++ i.detail)]

/-- The lines of a file, an empty one first. -/
def FileCheck.lines (f : FileCheck) : List Line :=
  [emptyLine, [styled .strong f.path.name, plain (" [" ++ f.language.getD "?" ++ "]")]] ++
  (match f.fault with
    | some fault => [[plain "  ", severityLabel .error, plain (": " ++ fault)]]
    | none =>
      if f.issues.isEmpty then [[plain "  ", styled .green "no issues"]]
      else f.issues.map (·.line))

/-- The lines of the report. -/
def CheckReport.lines (r : CheckReport) : List Line :=
  [title "CATALOG CHECK"] ++ r.files.flatMap (·.lines) ++
  [emptyLine,
   [plain ("Summary: " ++ number (r.count .error) ++ " error(s), " ++ number (r.count .warning) ++
      " warning(s), " ++ number (r.count .note) ++ " note(s) in " ++ number r.files.length ++
      " file(s)")]]

end MessageCatalog.Check
