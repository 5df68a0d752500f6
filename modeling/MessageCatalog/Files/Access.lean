import MessageCatalog.Files.FilePath

/-!
# Access to files

What a program may do with files: read and write them, ask what a path leads to, list the files
below a directory and make directories. Each of these can fail in the ways in which a system fails.
-/

namespace MessageCatalog.Files

/-- The content of a file. -/
abbrev Bytes := List UInt8

/-- Why a system refuses something. -/
inductive Refusal where
  | missing
  | present
  | notDirectory
  | isDirectory
  | other (text : String)
  deriving DecidableEq, Repr

def Refusal.message : Refusal → String
  | missing => "No such file or directory (os error 2)"
  | present => "File exists (os error 17)"
  | notDirectory => "Not a directory (os error 20)"
  | isDirectory => "Is a directory (os error 21)"
  | other text => text

/-- What a path can lead to. -/
inductive Kind where
  | file
  | directory
  deriving DecidableEq, Repr

/-- A world with files. -/
class Access (m : Type → Type) where
  read : FilePath → m (Except Refusal Bytes)
  write : FilePath → Bytes → m (Except Refusal Unit)
  kind? : FilePath → m (Option Kind)
  /-- The files below a directory, in any order. -/
  below : FilePath → m (List FilePath)
  /-- Make a directory and those above it. -/
  makeDirectories : FilePath → m (Except Refusal Unit)

end MessageCatalog.Files
