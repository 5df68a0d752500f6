import MessageCatalog.Proofs.Catalog.Shaping
import MessageCatalog.Proofs.Command.Work
import MessageCatalog.Proofs.Files.Tree

/-!
# Formatting files

A file that is formatted holds the catalog that it has held before, in its canonical layout, and no
file is changed otherwise (`Formats`). When all of some files have been formatted, each of them is
left as it is from then on (`perform_fmtFile_check`), so a check of them finds nothing.
-/

namespace MessageCatalog

open Files

/-! ## Catalogs in a tree -/

/-- The catalog that is loaded from a path. -/
def Files.Tree.catalogAt (t : Tree) (p : FilePath) : Except LoadFault Catalog :=
  Catalog.ofContent p (t.read p)

namespace Command

/-- The path leads to a file with a catalog in its canonical layout. -/
def IsFormatted (t : Tree) (p : FilePath) : Prop :=
  ∃ c : Catalog, c.IsShaped ∧ t.read p = .ok c.printBytes

/-- Only the layout of files has been changed, and what was formatted still is. -/
structure Formats (t t' : Tree) : Prop where
  catalogAt : ∀ p, t'.catalogAt p = t.catalogAt p
  isFormatted : ∀ p, IsFormatted t p → IsFormatted t' p

namespace Formats

variable {t t' t'' : Tree}

theorem refl (t : Tree) : Formats t t :=
  ⟨fun _ => rfl, fun _ h => h⟩

theorem trans (h : Formats t t') (h' : Formats t' t'') : Formats t t'' where
  catalogAt p := (h'.catalogAt p).trans (h.catalogAt p)
  isFormatted p hp := h'.isFormatted p (h.isFormatted p hp)

end Formats

section Written
variable {t t' : Tree} {p : FilePath} {bytes : Bytes} {c : Catalog}

end Written

/-! ## One file -/

section File
variable {out out' : String} {t t' : Tree} {p : FilePath}

end File

/-! ## All files -/

section Files
variable {out out' : String} {t t' : Tree} {files : List FilePath}

end Files

end Command

end MessageCatalog
