/-!
# Totals

The sum of some counts. Totals of joined lists add up, so that a total over a catalog is the sum of
the totals over its parts.
-/

namespace MessageCatalog

/-- The sum of some counts. -/
def total : List Nat → Nat
  | [] => 0
  | n :: rest => n + total rest

@[simp] theorem total_nil : total [] = 0 := rfl

@[simp] theorem total_cons (n : Nat) (rest : List Nat) : total (n :: rest) = n + total rest := rfl

@[simp] theorem total_append (s t : List Nat) : total (s ++ t) = total s + total t := by
  induction s with
  | nil => simp
  | cons n s ih => simp [ih, Nat.add_assoc]

/-- The length of lists put together. -/
theorem length_flatMap {α β : Type} (f : α → List β) (s : List α) :
    (s.flatMap f).length = total (s.map fun a => (f a).length) := by
  induction s with
  | nil => rfl
  | cons a s ih => simp [ih]

end MessageCatalog
