import Mathlib.Data.Prod.Lex
import Mathlib.Data.List.Lex
import Mathlib.Data.List.Pairwise
import Mathlib.Data.String.Basic
import MessageCatalog.Files.FilePath

/-!
# The order of paths

Paths are ordered as the lists of their components, and components by their kinds first, then by
their names (`FilePath.le_iff`). So the order is linear, up to paths that are the same.
-/

namespace MessageCatalog.Files

namespace Component

/-- What a component is ordered by. -/
def key : Component → Lex (Nat × String)
  | part name => toLex (rank (part name), name)
  | c => toLex (c.rank, "")

theorem key_injective : Function.Injective key := by
  intro a b h
  cases a <;> cases b <;> simp_all [key, rank]

theorem isBefore_iff (a b : Component) : a.isBefore b = true ↔ a.key < b.key := by
  cases a <;> cases b <;> simp [isBefore, key, rank, Prod.Lex.toLex_lt_toLex]

end Component

namespace FilePath

theorem componentsLe_iff (s t : List Component) :
    componentsLe s t = true ↔ s.map Component.key ≤ t.map Component.key := by
  induction s generalizing t with
  | nil => exact ⟨fun _ => not_lt.1 (List.not_lt_nil _), fun _ => rfl⟩
  | cons a s ih =>
    cases t with
    | nil => simp [componentsLe]
    | cons b t =>
      rw [componentsLe, List.map_cons, List.map_cons, ← not_lt, List.cons_lt_cons_iff]
      by_cases h : a = b
      · subst h
        simp [ih]
      · have hk : a.key ≠ b.key := fun hk => h (Component.key_injective hk)
        simp [h, hk.symm, Component.isBefore_iff, hk.le_iff_lt]

/-- What a path is ordered by. -/
def key (p : FilePath) : List (Lex (Nat × String)) :=
  p.components.map Component.key

theorem le_iff {a b : FilePath} : a.le b = true ↔ a.key ≤ b.key :=
  componentsLe_iff a.components b.components

theorem isSame_iff {a b : FilePath} : a.isSame b = true ↔ a.key = b.key := by
  rw [isSame, decide_eq_true_iff]
  exact (List.map_injective_iff.2 Component.key_injective).eq_iff.symm

/-- A path comes before another one. -/
def IsBefore (a b : FilePath) : Prop :=
  a.le b = true ∧ a.isSame b = false

/-! ## Sorted paths -/

/-- No two of the paths are the same. -/
def AreDistinct (paths : List FilePath) : Prop :=
  paths.Pairwise fun a b => a.isSame b = false

section Sorted
variable {paths paths' : List FilePath}

theorem isSame_comm (a b : FilePath) : a.isSame b = b.isSame a :=
  decide_eq_decide.2 eq_comm

theorem AreDistinct.perm (h : AreDistinct paths) (hp : paths.Perm paths') : AreDistinct paths' :=
  hp.pairwise h fun hs => (isSame_comm ..).trans hs

/-- Of distinct paths, only one is the same as a path. -/
theorem AreDistinct.eq_of_isSame (h : AreDistinct paths) {a b : FilePath} (ha : a ∈ paths)
    (hb : b ∈ paths) (hs : a.isSame b = true) : a = b := by
  have : Std.Symm fun a b : FilePath => a.isSame b = false :=
    ⟨fun a b hab => (isSame_comm b a).trans hab⟩
  by_contra hne
  exact Bool.false_ne_true ((h.forall ha hb hne).symm.trans hs)

theorem le_of_le_of_le (a b c : FilePath) (hab : a.le b = true) (hbc : b.le c = true) :
    a.le c = true := by
  rw [le_iff] at *
  exact le_trans hab hbc

theorem le_or_le (a b : FilePath) : (a.le b || b.le a) = true := by
  rw [Bool.or_eq_true, le_iff, le_iff]
  exact le_total _ _

theorem isSame_of_le {a b : FilePath} (hab : a.le b = true) (hba : b.le a = true) :
    a.isSame b = true := by
  rw [le_iff] at hab hba
  exact isSame_iff.2 (le_antisymm hab hba)

theorem pairwise_le_mergeSort (paths : List FilePath) :
    (paths.mergeSort le).Pairwise fun a b => a.le b = true :=
  List.pairwise_mergeSort le_of_le_of_le le_or_le paths

/-- Distinct paths are sorted strictly. -/
theorem AreDistinct.pairwise_isBefore (h : AreDistinct paths) :
    (paths.mergeSort le).Pairwise IsBefore :=
  (pairwise_le_mergeSort paths).and (h.perm (paths.mergeSort_perm le).symm)

/-- The order of distinct paths does not matter when they are sorted. -/
theorem AreDistinct.mergeSort_eq (h : AreDistinct paths) (hp : paths.Perm paths') :
    paths.mergeSort le = paths'.mergeSort le := by
  have hsorted := (paths.mergeSort_perm le).trans (hp.trans (paths'.mergeSort_perm le).symm)
  refine List.Perm.eq_of_pairwise (fun a b ha hb hab hba => ?_) (pairwise_le_mergeSort paths)
    (pairwise_le_mergeSort paths') hsorted
  exact h.eq_of_isSame ((paths.mergeSort_perm le).subset ha) (hp.symm.subset
    ((paths'.mergeSort_perm le).subset hb)) (isSame_of_le hab hba)

end Sorted

end FilePath

end MessageCatalog.Files
