import MessageCatalog.Digest.Blake3
import MessageCatalog.Files.Loading
import MessageCatalog.Progress.Overview

/-!
# The progress of files

The progress of a catalog that was read from a file, with the path and the digest of the file.
-/

namespace MessageCatalog.Progress

open Files

/-- The progress of a catalog with the path and the digest of its file. -/
def Overview.ofFile (path : FilePath) (bytes : Bytes) (c : Catalog) : Overview :=
  { Overview.ofCatalog c with path := some path.name, digest := some (Digest.hexDigest bytes) }

/-- The catalog in the content of a file, and its progress. -/
def ofContent (path : FilePath) (content : Except Refusal Bytes) :
    Except LoadFault (Catalog × Overview) := do
  let c ← Catalog.ofContent path content
  match content with
  | .ok bytes => .ok (c, .ofFile path bytes c)
  | .error refusal => .error (.refused path refusal)

section

variable {m : Type → Type} [Monad m] [Access m]

/-- The progress of some files, up to the first that cannot be loaded. -/
def survey (paths : List FilePath) : m (Except LoadFault Survey) := do
  let contents ← paths.mapM fun path => return (path, ← Access.read path)
  return do
    let catalogs ← contents.mapM fun (path, content) => return (← ofContent path content).2
    return { catalogs }

end

end MessageCatalog.Progress
