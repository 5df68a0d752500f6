import Mathlib.Tactic.Tauto
import MessageCatalog.Merge.Summary
import MessageCatalog.Proofs.Total

/-!
# Laws of summaries

The counts of a sum of summaries are the totals of the counts, and nothing has happened in a sum
when nothing has happened in any part.
-/

namespace MessageCatalog.Merge

theorem sum_cons (a : Summary) (s : List Summary) :
    Summary.sum (a :: s) = a.add (Summary.sum s) := rfl

theorem sum_append (s t : List Summary) :
    Summary.sum (s ++ t) = (Summary.sum s).add (Summary.sum t) := by
  induction s with
  | nil => exact (Summary.zero_add _).symm
  | cons a s ih => rw [List.cons_append, sum_cons, sum_cons, ih, Summary.add_assoc]

/-- Where messages are only kept, the sum only keeps messages. -/
theorem sum_kept {α : Type} (f : α → Nat) (s : List α) :
    Summary.sum (s.map fun a => { kept := f a }) = { kept := total (s.map f) } := by
  induction s with
  | nil => rfl
  | cons a s ih =>
    rw [List.map_cons, sum_cons, ih]
    rfl

/-- A count is added up when summaries are. -/
theorem sum_eq_total {f : Summary → Nat} (h0 : f {} = 0) (hf : ∀ a b, f (a.add b) = f a + f b)
    (s : List Summary) : f (Summary.sum s) = total (s.map f) := by
  induction s with
  | nil => exact h0
  | cons a s ih =>
    rw [sum_cons, hf, ih]
    rfl

/-- The messages of the result that were not there before. -/
def Summary.gained (s : Summary) : Nat :=
  s.added + s.sameText

theorem gained_add (a b : Summary) : (a.add b).gained = a.gained + b.gained := by
  simp only [Summary.gained, Summary.add]
  omega

theorem dropped_add (a b : Summary) : (a.add b).dropped = a.dropped + b.dropped := rfl

theorem gained_sum (s : List Summary) : (Summary.sum s).gained = total (s.map (·.gained)) :=
  sum_eq_total rfl gained_add s

theorem dropped_sum (s : List Summary) : (Summary.sum s).dropped = total (s.map (·.dropped)) :=
  sum_eq_total rfl dropped_add s

/-- The messages of the template that have been settled. -/
def Summary.settled (s : Summary) : Nat :=
  s.kept + s.revived + s.added + s.sameText

theorem settled_add (a b : Summary) : (a.add b).settled = a.settled + b.settled := by
  simp only [Summary.settled, Summary.add]
  omega

theorem isNoop_add (a b : Summary) :
    (a.add b).isNoop = true ↔ a.isNoop = true ∧ b.isNoop = true := by
  simp only [Summary.isNoop, Summary.add, Bool.and_eq_true, beq_iff_eq, Nat.add_eq_zero_iff]
  tauto

/-- Nothing has happened when nothing has happened in any part. -/
theorem isNoop_sum {s : List Summary} :
    (Summary.sum s).isNoop = true ↔ ∀ a ∈ s, a.isNoop = true := by
  induction s with
  | nil => exact iff_of_true rfl fun _ h => absurd h List.not_mem_nil
  | cons a s ih => rw [sum_cons, isNoop_add, ih, List.forall_mem_cons]

end MessageCatalog.Merge
