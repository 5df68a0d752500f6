import MessageCatalog.Progress.Overview
import MessageCatalog.Report.Phrase

/-!
# Reporting progress

One line for a catalog as a whole, and further lines with its counts and with the contexts in which
work is left.
-/

namespace MessageCatalog.Progress

open Report

namespace Overview

/-- What a catalog is called in a report. -/
def label (o : Overview) : String :=
  (o.path.or o.language).getD "<catalog>"

/-- What the language of a catalog is called in a report. -/
def languageLabel (o : Overview) : String :=
  match o.language, o.names with
  | some code, some names =>
    if names.english ≠ names.native then
      code ++ " (" ++ names.english ++ ", " ++ names.native ++ ")"
    else code ++ " (" ++ names.english ++ ")"
  | some code, none => code
  | none, _ => "?"

/-- The colour of a share: green for what is as good as complete, yellow from three quarters on, and
red below. -/
def completionStyle (o : Overview) : Style :=
  if o.reaches 999 then .green else if o.reaches 750 then .yellow else .red

/-- The catalog in one line. -/
def line (o : Overview) : Line :=
  [styled o.completionStyle (percentage o.completion), plain "  ", styled .strong o.label,
   plain ("  " ++ o.languageLabel ++ "  " ++ number o.translated ++ "/" ++
      number o.counts.active ++ " translated, " ++ number o.counts.unfinished ++ " unfinished, " ++
      number o.counts.vanished ++ " vanished, " ++ number o.counts.obsolete ++ " obsolete")]

end Overview

/-- The line of a context in which work is left. -/
def ContextProgress.line (c : ContextProgress) : Line :=
  [plain ("    " ++ c.name ++ ": " ++ number c.translated ++ "/" ++ number c.counts.active ++
    " (" ++ number c.counts.unfinished ++ " unfinished)")]

/-- All lines of a catalog. -/
def Overview.lines (o : Overview) : List Line :=
  let pending := o.contexts.filter fun c => c.translated < c.counts.active
  [o.line,
   [plain ("  contexts: " ++ number o.contextCount ++ "  messages: " ++ number o.messageCount ++
      "  numerus: " ++ number o.numerus ++ "  version: " ++ o.version)]] ++
  (match o.digest with
    | some digest => [[plain ("  blake3: " ++ digest)]]
    | none => []) ++
  (if pending.isEmpty then []
   else [plain "  Contexts with pending work:"] :: pending.map (·.line))

/-- The lines of the report, a catalog after an empty line each. -/
def Survey.lines (s : Survey) : List Line :=
  title "TRANSLATION PROGRESS" :: s.catalogs.flatMap fun o => emptyLine :: o.lines

end MessageCatalog.Progress
