import MessageCatalog.Report.Progressing
import MessageCatalog.Sweep.Basic

/-!
# Reporting a sweep

A head with the totals, and one line for each catalog, with another one for its findings.
-/

namespace MessageCatalog.Sweep

open MessageCatalog.Report

/-- The lines of a catalog. -/
def Entry.lines (e : Entry) : List Line :=
  match e.overview, e.fault with
  | _, some fault => [[severityLabel .error, plain (" " ++ e.path.name ++ ": " ++ fault)]]
  | some overview, none =>
    overview.line ::
      (if 0 < e.errors + e.warnings then
        [[plain ("         " ++ number e.errors ++ " error(s), " ++ number e.warnings ++
          " warning(s)")]]
       else [])
  | none, none => []

/-- The lines of the report. -/
def Report.lines (r : Report) : List Line :=
  [title "CATALOG SWEEP",
   [plain ("Directory: " ++ r.directory.name)],
   [plain ("Catalogs: " ++ number r.found ++ "  Skipped .ts files: " ++ number r.skipped ++
      "  Messages: " ++ number r.messages ++ "  Errors: " ++ number r.errors ++
      "  Warnings: " ++ number r.warnings)],
   emptyLine] ++ r.results.flatMap (·.lines)

end MessageCatalog.Sweep
