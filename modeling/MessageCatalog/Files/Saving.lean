import MessageCatalog.Catalog.Printing
import MessageCatalog.Files.Loading

/-!
# Saving catalogs and reports

What is written to a file may need directories that are not there yet; they are made first.
-/

namespace MessageCatalog

open Files

section

variable {m : Type → Type} [Monad m] [Access m]

/-- The directory above a path, if it has a name. -/
def Files.FilePath.directory? (p : FilePath) : Option FilePath :=
  p.parent?.filter (·.name ≠ "")

/-- Make the directory above a path. -/
def makeRoomFor (p : FilePath) : m (Except (FilePath × Refusal) Unit) := do
  match p.directory? with
  | some directory => return (← Access.makeDirectories directory).mapError fun r => (directory, r)
  | none => return .ok ()

/-- Write a catalog to a file. -/
def saveCatalog (path : FilePath) (c : Catalog) : m (Except Chain Unit) := do
  match ← makeRoomFor path with
  | .error (directory, refusal) =>
    return .error ["creating directory " ++ directory.name, refusal.message]
  | .ok () =>
    match ← Access.write path c.printBytes with
    | .error refusal => return .error ["writing catalog " ++ path.name, refusal.message]
    | .ok () => return .ok ()

/-- Write a text to a file. -/
def saveText (path : FilePath) (text : String) : m (Except Chain Unit) := do
  match ← makeRoomFor path with
  | .error (_, refusal) => return .error [refusal.message]
  | .ok () =>
    match ← Access.write path (Encoding.Utf8.encode text.toList) with
    | .error refusal => return .error ["writing " ++ path.name, refusal.message]
    | .ok () => return .ok ()

end

end MessageCatalog
