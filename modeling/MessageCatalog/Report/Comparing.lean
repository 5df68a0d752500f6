import MessageCatalog.Compare.Change
import MessageCatalog.Report.Phrase

/-!
# Reporting a comparison

A head with the labels and the counts, and one line for each change.
-/

namespace MessageCatalog.Compare

open Report

/-- Where a message is found, as a reader sees it. -/
def Change.place (c : Change) : String :=
  c.context ++ " " ++ quote c.source ++
    (match c.comment with
      | some comment => " (" ++ comment ++ ")"
      | none => "")

/-- A text that may be absent, in quotes. -/
def quoteIfAny (text? : Option String) : String :=
  (text?.map quote).getD ""

/-- The line of a change. -/
def Change.line (c : Change) : Line :=
  match c.kind with
  | .added => [styled .green "+", plain (" " ++ c.place ++ " " ++ quoteIfAny c.after)]
  | .removed => [styled .red "-", plain (" " ++ c.place ++ " " ++ quoteIfAny c.before)]
  | .textChanged =>
    [styled .yellow "~",
     plain (" " ++ c.place ++ " " ++ quoteIfAny c.before ++ " -> " ++ quoteIfAny c.after)]
  | .statusChanged =>
    [styled .blue "*",
     plain (" " ++ c.place ++ " " ++ c.before.getD "-" ++ " -> " ++ c.after.getD "-")]

/-- The lines of the report. -/
def Comparison.lines (c : Comparison) : List Line :=
  let count kind := number (c.count kind)
  [title "CATALOG DIFF",
   [plain ("Base: " ++ c.baseLabel)],
   [plain ("Compare: " ++ c.newerLabel)],
   [plain ("Added: " ++ count .added ++ "  Removed: " ++ count .removed ++
      "  Translation changed: " ++ count .textChanged ++
      "  Status changed: " ++ count .statusChanged)]] ++
  (if c.isEmpty then [[plain "No differences."]] else emptyLine :: c.changes.map (·.line))

end MessageCatalog.Compare
