import MessageCatalog.Merge.Summary
import MessageCatalog.Report.Phrase

/-!
# Reporting a merge

The counts of a merge, one on each line.
-/

namespace MessageCatalog.Merge

open Report

/-- The lines of the report. -/
def Summary.lines (s : Summary) : List Line :=
  [title "SYNC SUMMARY",
   [plain ("  Kept:       " ++ number s.kept)],
   [plain ("  Revived:    " ++ number s.revived)],
   [plain "  Added:      ", styled .green (number s.added)],
   [plain ("  Same text:  " ++ number s.sameText)],
   [plain "  Vanished:   ", styled .yellow (number s.vanished)],
   [plain "  Obsolete:   ", styled .yellow (number s.obsoleted)],
   [plain "  Dropped:    ", styled .red (number s.dropped)]]

end MessageCatalog.Merge
