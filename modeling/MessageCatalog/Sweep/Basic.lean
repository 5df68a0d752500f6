import MessageCatalog.Catalog.Sniffing
import MessageCatalog.Check.FileCheck
import MessageCatalog.Progress.FileProgress
import MessageCatalog.Total

/-!
# Sweeping directories

A sweep looks at every file below a directory whose name ends in `.ts`. Files of other kinds have
that ending too: what does not look like a catalog is skipped and only counted. The others are
loaded and checked, and reported in the order of their paths, whatever the order in which they are
found.
-/

namespace MessageCatalog.Sweep

open Check Data Files Progress

/-- What a sweep finds out about a catalog file. -/
structure Entry where
  path : FilePath
  overview : Option Overview := none
  errors : Nat := 0
  warnings : Nat := 0
  /-- Why the file could not be loaded. -/
  fault : Option String := none
  deriving DecidableEq, Repr

namespace Entry

/-- Look at the content of a file. -/
def ofContent (v : Validator) (path : FilePath) (content : Except Refusal Bytes) : Entry :=
  match Progress.ofContent path content with
  | .ok (c, overview) =>
    let issues := v.validate c
    { path, overview := some overview, errors := count .error issues,
      warnings := count .warning issues }
  | .error fault => { path, fault := some fault.chain.line }

def toData (e : Entry) : Value :=
  .record ([("path", .text e.path.name)] ++ field? "stats" e.overview (·.toData) ++
    [("errors", .nat e.errors), ("warnings", .nat e.warnings)] ++ field? "error" e.fault .text)

end Entry

structure Report where
  directory : FilePath
  /-- How many files look like catalogs. -/
  found : Nat
  /-- How many files do not. -/
  skipped : Nat
  results : List Entry
  deriving DecidableEq, Repr

namespace Report

/-- The messages of the files that could be loaded. -/
def messages (r : Report) : Nat :=
  total (r.results.filterMap (·.overview.map (·.messageCount)))

/-- The errors in all files. A file that could not be loaded counts as one. -/
def errors (r : Report) : Nat :=
  total (r.results.map fun e => e.errors + if e.fault.isSome then 1 else 0)

def warnings (r : Report) : Nat :=
  total (r.results.map (·.warnings))

def toData (r : Report) : Value :=
  .record [("directory", .text r.directory.name), ("catalogs_found", .nat r.found),
    ("skipped", .nat r.skipped), ("total_messages", .nat r.messages),
    ("total_errors", .nat r.errors), ("total_warnings", .nat r.warnings),
    ("results", .list (r.results.map (·.toData)))]

end Report

/-- The ending of the names of catalog files. -/
def ending : String := "ts"

/-- The content of a file looks like a catalog. -/
def isCatalog (content : Except Refusal Bytes) : Bool :=
  match content with
  | .ok bytes => Sniffing.sniff bytes
  | .error _ => false

/-- The report on some files with the ending of catalogs. -/
def ofContents (v : Validator) (directory : FilePath)
    (files : List (FilePath × Except Refusal Bytes)) : Report :=
  let catalogs := (files.filter fun f => isCatalog f.2).mergeSort fun a b => a.1.le b.1
  { directory
    found := catalogs.length
    skipped := files.length - catalogs.length
    results := catalogs.map fun (path, content) => .ofContent v path content }

section

variable {m : Type → Type} [Monad m] [Access m]

/-- Sweep a directory; a path that leads to none is refused. -/
def sweep (v : Validator) (directory : FilePath) : m (Except Chain Report) := do
  if (← Access.kind? directory) ≠ some .directory then
    return .error ["Not a directory: " ++ directory.name]
  else
    let paths := (← Access.below directory).filter (·.extension? = some ending)
    let files ← paths.mapM fun path => return (path, ← Access.read path)
    return .ok (ofContents v directory files)

end

end MessageCatalog.Sweep
