import MessageCatalog.Check.Validator
import MessageCatalog.Files.Loading
import MessageCatalog.Total

/-!
# Checking files

The findings in some files. A file that cannot be loaded has no findings but a fault, which counts
as an error where only the highest severity matters.
-/

namespace MessageCatalog.Check

open Data Files

structure FileCheck where
  path : FilePath
  language : Option String := none
  issues : List Issue := []
  /-- Why the file could not be loaded. -/
  fault : Option String := none
  deriving DecidableEq, Repr

namespace FileCheck

/-- Check the content of a file. -/
def ofContent (v : Validator) (path : FilePath) (content : Except Refusal Bytes) : FileCheck :=
  match Catalog.ofContent path content with
  | .ok c => { path, language := c.language, issues := v.validate c }
  | .error fault => { path, fault := some fault.chain.line }

/-- How many findings have a severity. -/
def count (f : FileCheck) (severity : Severity) : Nat :=
  Check.count severity f.issues

/-- The severities that count for a file. -/
def severities (f : FileCheck) : List Severity :=
  f.issues.map (·.severity) ++ f.fault.toList.map fun _ => .error

def toData (f : FileCheck) : Value :=
  .record ([("path", .text f.path.name)] ++ field? "language" f.language .text ++
    [("issues", .list (f.issues.map (·.toData)))] ++ field? "error" f.fault .text)

end FileCheck

structure CheckReport where
  files : List FileCheck := []
  deriving DecidableEq, Repr

namespace CheckReport

def count (r : CheckReport) (severity : Severity) : Nat :=
  total (r.files.map (·.count severity))

/-- The highest severity in the report. -/
def worst? (r : CheckReport) : Option Severity :=
  highest? (r.files.flatMap (·.severities))

/-- The highest severity reaches a threshold. -/
def fails (r : CheckReport) (threshold : Severity) : Bool :=
  r.worst?.any fun worst => decide (threshold.rank ≤ worst.rank)

def toData (r : CheckReport) : Value :=
  .record [("files", .list (r.files.map (·.toData)))]

end CheckReport

section

variable {m : Type → Type} [Monad m] [Access m]

/-- Check some files. -/
def checkFiles (v : Validator) (paths : List FilePath) : m CheckReport := do
  let files ← paths.mapM fun path => return FileCheck.ofContent v path (← Access.read path)
  return { files }

end

end MessageCatalog.Check
