import MessageCatalog.Files.Loading
import MessageCatalog.Files.Tree

/-!
# Worlds that stand still

A world stands still when to read a file, to ask what a path leads to and to list the files below a
directory leave it as it is (`Still`). What is done for one path after the other can then be told
from the world as it is (`Still.run_mapM`). A tree stands still.
-/

namespace MessageCatalog.Files

/-- What a step yields and leaves is what the next one begins with. -/
theorem run_bind_of_eq {σ α β : Type} {x : StateM σ α} {s s' : σ} {a : α}
    (h : x.run s = (a, s')) (f : α → StateM σ β) : (x >>= f).run s = (f a).run s' := by
  rw [StateT.run_bind, h]
  rfl

variable {σ : Type} [Access (StateM σ)]

/-- What a path reads in a world. -/
def readIn (s : σ) (p : FilePath) : Except Refusal Bytes :=
  ((Access.read p : StateM σ _).run s).1

/-- What a path leads to in a world. -/
def kindIn? (s : σ) (p : FilePath) : Option Kind :=
  ((Access.kind? p : StateM σ _).run s).1

/-- The files below a directory, as a world lists them. -/
def belowIn (s : σ) (p : FilePath) : List FilePath :=
  ((Access.below p : StateM σ _).run s).1

/-- What is asked of the world leaves it as it is. -/
structure Still (s : σ) : Prop where
  read (p : FilePath) : ((Access.read p : StateM σ _).run s).2 = s
  kind? (p : FilePath) : ((Access.kind? p : StateM σ _).run s).2 = s
  below (p : FilePath) : ((Access.below p : StateM σ _).run s).2 = s

namespace Still
variable {s : σ}

theorem run_read (hs : Still s) (p : FilePath) :
    (Access.read p : StateM σ _).run s = (readIn s p, s) :=
  Prod.ext rfl (hs.read p)

theorem run_kind? (hs : Still s) (p : FilePath) :
    (Access.kind? p : StateM σ _).run s = (kindIn? s p, s) :=
  Prod.ext rfl (hs.kind? p)

theorem run_below (hs : Still s) (p : FilePath) :
    (Access.below p : StateM σ _).run s = (belowIn s p, s) :=
  Prod.ext rfl (hs.below p)

/-- What is made of the content of each of some files. -/
theorem run_mapM {α : Type} (hs : Still s) (f : FilePath → Except Refusal Bytes → α)
    (paths : List FilePath) :
    (paths.mapM fun p => return f p (← Access.read p) : StateM σ (List α)).run s =
      (paths.map fun p => f p (readIn s p), s) := by
  induction paths with
  | nil => rfl
  | cons p paths ih =>
    have hp : (do return f p (← Access.read p) : StateM σ α).run s = (f p (readIn s p), s) :=
      run_bind_of_eq (hs.run_read p) _
    rw [List.mapM_cons, run_bind_of_eq hp, run_bind_of_eq ih]
    rfl

theorem run_loadCatalog (hs : Still s) (p : FilePath) :
    (loadCatalog p : StateM σ _).run s = (Catalog.ofContent p (readIn s p), s) :=
  run_bind_of_eq (hs.run_read p) _

end Still

/-- Two worlds have the same files below a directory, in whatever order they list them. -/
structure AreAlike {σ' : Type} [Access (StateM σ')] (d : FilePath) (s : σ) (s' : σ') : Prop where
  kind? : kindIn? s d = kindIn? s' d
  below : (belowIn s d).Perm (belowIn s' d)
  read : ∀ p ∈ belowIn s d, readIn s p = readIn s' p

theorem Tree.still (t : Tree) : Still t :=
  ⟨fun _ => rfl, fun _ => rfl, fun _ => rfl⟩

end MessageCatalog.Files
