import MessageCatalog.Check.Issue
import MessageCatalog.Command.Switch
import MessageCatalog.Files.FilePath
import MessageCatalog.Merge.Sync
import MessageCatalog.Report.Format

/-!
# Commands

What can be asked for on the command line: a command with its operands and switches, and the
settings to use. `Invocation.ofWords` makes sense of the words of a command line.
-/

namespace MessageCatalog.Command

open Check Files Report

/-- How a report is wanted. -/
structure Wanted where
  /-- The format, if it is not that of the settings. -/
  format : Option Format := none
  /-- The file to write to. -/
  file : Option FilePath := none
  deriving DecidableEq, Repr

/-- What to look up. -/
structure Question where
  catalog : FilePath
  context : String
  source : String
  comment : Option String := none
  count : Option Int := none
  args : List String := []
  fallbacks : List FilePath := []
  includeUnfinished : Bool := false
  deriving DecidableEq, Repr

/-- What to bring up to date. -/
structure Update where
  catalog : FilePath
  template : FilePath
  /-- The file to write to, if it is not that of the catalog. -/
  file : Option FilePath := none
  options : Merge.Options := {}
  dryRun : Bool := false
  deriving DecidableEq, Repr

inductive Task where
  | check (files : List FilePath) (failOn : Option Severity) (wanted : Wanted)
  | stats (files : List FilePath) (wanted : Wanted)
  | lookup (question : Question)
  | sync (update : Update)
  | diff (base newer : FilePath) (wanted : Wanted)
  | fmt (files : List FilePath) (checkOnly : Bool)
  | exportData (catalog : FilePath) (format : Format) (file : Option FilePath)
  | sweep (directory : FilePath) (wanted : Wanted)
  deriving DecidableEq, Repr

structure Invocation where
  /-- The file of the settings, if it is not the default one. -/
  settings : Option FilePath := none
  task : Task
  deriving DecidableEq, Repr

/-- Every path has a name. -/
def isPathName (word : String) : Bool := word != ""

def settingsSwitch : Switch := { long := "config", accepts := isPathName }

def verboseSwitch : Switch := { long := "verbose", short := some 'v', takesValue := false }

/-- The switches of every command. -/
def commonSwitches : List Switch := [settingsSwitch, verboseSwitch]

def formatSwitch : Switch :=
  { long := "format", short := some 'f', accepts := fun w => (Format.ofName? w).isSome }

def outputSwitch : Switch := { long := "output", short := some 'o', accepts := isPathName }

/-- A command with its grammar, and how it is made of what is given. -/
structure Subcommand where
  name : String
  switches : List Switch
  operandLimit : Option Nat
  read? : Given → Option Task

def Subcommand.grammar (c : Subcommand) : Grammar where
  switches := commonSwitches ++ c.switches
  operandLimit := c.operandLimit
  acceptsOperand := isPathName

def wantedOf (g : Given) : Wanted where
  format := (g.value? "format").bind Format.ofName?
  file := (g.value? "output").map FilePath.mk

/-- The operands, of which there has to be one at least. -/
def filesOf? (g : Given) : Option (List FilePath) :=
  if g.operands.isEmpty then none else some (g.operands.map FilePath.mk)

def checkCommand : Subcommand where
  name := "check"
  switches :=
    [{ long := "fail-on", accepts := fun w => (Severity.ofName? w).isSome }, formatSwitch,
      outputSwitch]
  operandLimit := none
  read? g := do
    return .check (← filesOf? g) ((g.value? "fail-on").bind Severity.ofName?) (wantedOf g)

def statsCommand : Subcommand where
  name := "stats"
  switches := [formatSwitch, outputSwitch]
  operandLimit := none
  read? g := do return .stats (← filesOf? g) (wantedOf g)

def lookupCommand : Subcommand where
  name := "lookup"
  switches :=
    [{ long := "context", short := some 'c' }, { long := "source", short := some 's' },
      { long := "comment" },
      { long := "count", short := some 'n', accepts := fun w => (Text.readInt64? w.toList).isSome },
      { long := "arg", short := some 'a', repeatable := true },
      { long := "fallback", repeatable := true, accepts := isPathName },
      { long := "include-unfinished", takesValue := false }]
  operandLimit := some 1
  read? g := do
    return .lookup {
      catalog := ⟨← g.operands.head?⟩
      context := ← g.value? "context"
      source := ← g.value? "source"
      comment := g.value? "comment"
      count := (g.value? "count").bind fun w => Text.readInt64? w.toList
      args := g.values "arg"
      fallbacks := (g.values "fallback").map FilePath.mk
      includeUnfinished := g.has "include-unfinished" }

def syncCommand : Subcommand where
  name := "sync"
  switches :=
    [{ long := "template", short := some 't', accepts := isPathName }, outputSwitch,
      { long := "drop-obsolete", takesValue := false },
      { long := "no-same-text", takesValue := false }, { long := "dry-run", takesValue := false }]
  operandLimit := some 1
  read? g := do
    return .sync {
      catalog := ⟨← g.operands.head?⟩
      template := ⟨← g.value? "template"⟩
      file := (g.value? "output").map FilePath.mk
      options := { dropObsolete := g.has "drop-obsolete", noSameText := g.has "no-same-text" }
      dryRun := g.has "dry-run" }

def diffCommand : Subcommand where
  name := "diff"
  switches := [formatSwitch, outputSwitch]
  operandLimit := some 2
  read? g :=
    match g.operands with
    | [base, newer] => some (.diff ⟨base⟩ ⟨newer⟩ (wantedOf g))
    | _ => none

def fmtCommand : Subcommand where
  name := "fmt"
  switches := [{ long := "check", takesValue := false }]
  operandLimit := none
  read? g := do return .fmt (← filesOf? g) (g.has "check")

def exportCommand : Subcommand where
  name := "export"
  switches := [formatSwitch, outputSwitch]
  operandLimit := some 1
  read? g := do
    let wanted := wantedOf g
    return .exportData ⟨← g.operands.head?⟩ (wanted.format.getD .json) wanted.file

def sweepCommand : Subcommand where
  name := "sweep"
  switches := [formatSwitch, outputSwitch]
  operandLimit := some 1
  read? g := do return .sweep ⟨← g.operands.head?⟩ (wantedOf g)

def commands : List Subcommand :=
  [checkCommand, statsCommand, lookupCommand, syncCommand, diffCommand, fmtCommand, exportCommand,
    sweepCommand]

/-- What stands in front of the command. -/
def topGrammar : Grammar where
  switches := commonSwitches
  operandLimit := some 0
  commands := "help" :: commands.map (·.name)
  hasVersion := true

/-- The words behind a request for help are the name of a command at most. -/
def helpStop (words : List String) : Stop :=
  match words with
  | [] => .help
  | [word] => if topGrammar.commands.contains word then .help else .usage
  | _ => .usage

/-- What a command line asks for. -/
def Invocation.ofWords (words : List String) : Except Stop Invocation := do
  match ← topGrammar.take {} words with
  | (_, []) => .error .usage
  | (top, name :: rest) =>
    if name = "help" then .error (helpStop rest)
    else
      match commands.find? (·.name == name) with
      | none => .error .usage
      | some command =>
        let (given, _) ← command.grammar.take {} rest
        match command.read? given with
        | none => .error .usage
        | some task =>
          let settings := ((given.value? "config").or (top.value? "config")).map FilePath.mk
          .ok { settings, task }

end MessageCatalog.Command
