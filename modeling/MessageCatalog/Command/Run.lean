import MessageCatalog.Catalog.Data
import MessageCatalog.Command.Invocation
import MessageCatalog.Compare.Change
import MessageCatalog.Files.Saving
import MessageCatalog.Lookup.Chain
import MessageCatalog.Report.Checking
import MessageCatalog.Report.Comparing
import MessageCatalog.Report.Merging
import MessageCatalog.Report.Sweeping

/-!
# Carrying out commands

A command reads and writes files, prints lines and ends with success or failure, or it is broken off
by a fault. What was printed and written before stays. The commands are written for any world with
files.
-/

namespace MessageCatalog.Command

open Check Data Files Report

/-- How a command ends when it is not broken off. -/
inductive Ending where
  | success
  /-- The command has done its work and found something wrong. -/
  | failure
  deriving DecidableEq, Repr

/-- What becomes of a command line. -/
structure Outcome where
  exit : Nat
  output : String := ""
  /-- What broke the command off. -/
  fault : Option Chain := none
  deriving DecidableEq, Repr

/-- A command at work: it prints, and a fault may break it off. -/
abbrev Work (m : Type → Type) (α : Type) := ExceptT Chain (StateT String m) α

variable {m : Type → Type} [Monad m] [Access m]

/-- Do something to files. -/
def within {α : Type} (act : m α) : Work m α :=
  ExceptT.lift (StateT.lift act)

/-- Do something that may be broken off. -/
def orBreak {α : Type} (act : m (Except Chain α)) : Work m α := do
  ofExcept (← within act)
where
  ofExcept (r : Except Chain α) : Work m α := fun out => pure (r, out)

/-- Print a line. -/
def printLine (line : String) : Work m Unit := fun out =>
  pure (.ok (), out ++ line ++ "\n")

/-- Load a catalog. -/
def load (path : FilePath) : Work m Catalog :=
  orBreak (return (← loadCatalog path).mapError (·.chain))

/-- Load the settings in a file, or in the default file. -/
def loadSettingsAt (path? : Option FilePath) : Work m Settings :=
  orBreak do
    let settings ← match path? with
      | some path => loadSettings path
      | none => loadDefaultSettings
    return settings.mapError (·.chain)

/-- A part of the settings that may be refused. -/
def setting {α : Type} (value : Except SettingsFault α) : Work m α :=
  orBreak (pure (value.mapError fun fault => [fault.message]))

/-- What reports are written with. -/
structure Style where
  /-- The format for reports that name none. -/
  format : Format
  /-- Reports that are printed may have colours. -/
  color : Bool
  /-- The time to put on reports. -/
  time : String

/-- Print a report or write it to the file that is wanted, where it has no colours. -/
def emit (style : Style) (wanted : Wanted) (lines : List Line) (data : Value) : Work m Unit := do
  let format := wanted.format.getD style.format
  match wanted.file with
  | some path =>
    orBreak (saveText path (format.write false lines data))
    printLine ("Report saved to: " ++ path.name)
  | none => printLine (format.write style.color lines data)

def runCheck (settings : Settings) (style : Style) (files : List FilePath)
    (failOn : Option Severity) (wanted : Wanted) : Work m Ending := do
  let validator ← setting settings.validator
  let report ← within (checkFiles validator files)
  emit style wanted report.lines (stamped style.time report.toData)
  return if report.fails (failOn.getD settings.failOn) then .failure else .success

def runStats (style : Style) (files : List FilePath) (wanted : Wanted) : Work m Ending := do
  let survey ← orBreak (return (← Progress.survey files).mapError (·.chain))
  emit style wanted survey.lines (stamped style.time survey.toData)
  return .success

/-- The catalogs of other languages beside a catalog. -/
def siblings (catalog : FilePath) (languages : List String) : List FilePath :=
  let directory := catalog.parent?.getD ⟨""⟩
  (languages.map fun language => directory.join (language ++ ".ts")).filter (!·.isSame catalog)

def runLookup (settings : Settings) (q : Question) : Work m Ending := do
  let policy : Lookup.Policy :=
    ⟨settings.policy.includeUnfinished || q.includeUnfinished⟩
  let first ← load q.catalog
  let beside ← (siblings q.catalog settings.fallbackLanguages).filterM fun path => do
    return decide ((← within (Access.kind? path)) = some .file)
  let others ← (q.fallbacks ++ beside).mapM load
  let chain := Lookup.Chain.ofCatalogs policy (first :: others)
  let found := match q.count with
    | some n => chain.textForCount q.context q.source q.comment n
    | none => chain.text q.context q.source q.comment
  printLine (Lookup.substitute found q.args)
  return .success

def runSync (settings : Settings) (style : Style) (u : Update) : Work m Ending := do
  let template ← load u.template
  let isThere := (← within (Access.kind? u.catalog)).isSome
  let existing ← if isThere then load u.catalog else pure { template with contexts := [] }
  let options :=
    { u.options with dropObsolete := u.options.dropObsolete || settings.dropObsolete }
  let (result, summary) := Merge.sync existing template options
  printLine (renderLines style.color summary.lines)
  if !u.dryRun then
    let target := u.file.getD u.catalog
    orBreak (saveCatalog target result)
    printLine ("Catalog saved to: " ++ target.name)
  return .success

def runDiff (style : Style) (base newer : FilePath) (wanted : Wanted) : Work m Ending := do
  let baseCatalog ← load base
  let newerCatalog ← load newer
  let c := Compare.Comparison.ofCatalogs baseCatalog newerCatalog base.name newer.name
  emit style wanted c.lines c.toData
  return .success

/-- Write a catalog file as it is printed, or only say that it is not. The answer tells whether the
file was left as it should not be. -/
def fmtFile (checkOnly : Bool) (path : FilePath) : Work m Bool := do
  let content ← orBreak
    (return (← Access.read path).mapError fun r => ["reading " ++ path.name, r.message])
  let c ← orBreak (pure ((Catalog.ofContent path (.ok content)).mapError (·.chain)))
  if c.printBytes = content then return false
  else if checkOnly then
    printLine path.name
    return true
  else
    orBreak (return (← Access.write path c.printBytes).mapError fun r =>
      ["writing " ++ path.name, r.message])
    printLine ("Formatted: " ++ path.name)
    return false

def runFmt (files : List FilePath) (checkOnly : Bool) : Work m Ending := do
  let left ← files.mapM (fmtFile checkOnly)
  return if left.contains true then .failure else .success

def runExport (catalog : FilePath) (format : Format) (file : Option FilePath) : Work m Ending := do
  let c ← load catalog
  let text := format.writeData c.toData
  match file with
  | some path => orBreak (saveText path text)
  | none => printLine text
  return .success

def runSweep (settings : Settings) (style : Style) (directory : FilePath) (wanted : Wanted) :
    Work m Ending := do
  let validator ← setting settings.validator
  let report ← orBreak (Sweep.sweep validator directory)
  emit style wanted report.lines (stamped style.time report.toData)
  return .success

/-- Carry out a task. -/
def runTask (settings : Settings) (style : Style) : Task → Work m Ending
  | .check files failOn wanted => runCheck settings style files failOn wanted
  | .stats files wanted => runStats style files wanted
  | .lookup question => runLookup settings question
  | .sync update => runSync settings style update
  | .diff base newer wanted => runDiff style base newer wanted
  | .fmt files checkOnly => runFmt files checkOnly
  | .exportData catalog format file => runExport catalog format file
  | .sweep directory wanted => runSweep settings style directory wanted

/-- Load the settings and carry out a task with them. -/
def runInvocation (color : Bool) (time : String) (i : Invocation) : Work m Ending := do
  let settings ← loadSettingsAt i.settings
  let format ← setting settings.format
  runTask settings { format, color, time } i.task

/-- The outcome of a command at work. -/
def outcomeOf (work : Work m Ending) : m Outcome := do
  let (result, output) ← work.run.run ""
  return match result with
    | .ok .success => { exit := 0, output }
    | .ok .failure => { exit := 1, output }
    | .error fault => { exit := 1, output, fault := some fault }

def versionText : String := "tscat 0.1.0\n"

def helpText : String :=
  "Usage: tscat [OPTIONS] <COMMAND>\n\nCommands: " ++
    ", ".intercalate (commands.map (·.name)) ++ "\n"

/-- Carry out a command line. -/
def run (color : Bool) (time : String) (words : List String) : m Outcome :=
  match Invocation.ofWords words with
  | .error .usage => return { exit := 2 }
  | .error .help => return { exit := 0, output := helpText }
  | .error .version => return { exit := 0, output := versionText }
  | .ok invocation => outcomeOf (runInvocation color time invocation)

/-- The lines of a text behind the first, indented. -/
def indentLines (blanks : String) (text : String) : String :=
  ("\n" ++ blanks).intercalate (text.splitOn "\n")

/-- A cause of a fault, with its number if there are several. -/
def causeText (isOne : Bool) (number : Nat) (cause : String) : String :=
  if isOne then "    " ++ indentLines "    " cause
  else
    let digits := Report.number number
    String.ofList (List.replicate (5 - digits.length) ' ') ++ digits ++ ": " ++
      indentLines "       " cause

/-- A fault as it is shown to a user, its causes below it. -/
def faultText (fault : Chain) : String :=
  match fault with
  | [] => "Error\n"
  | [message] => "Error: " ++ message ++ "\n"
  | message :: causes =>
    "Error: " ++ message ++ "\n\nCaused by:\n" ++
      "\n".intercalate (causes.zipIdx.map fun (cause, n) =>
        causeText (causes.length == 1) n cause) ++ "\n"

end MessageCatalog.Command
