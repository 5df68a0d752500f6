import MessageCatalog.Total

/-!
# Laws of totals

A total over a list is found by what its members count for: nothing, one, or the sum of two counts.
-/

namespace MessageCatalog

/-- Two totals over distinct members that differ at one of them. -/
theorem total_map_eq_add {α : Type} {f g : α → Nat} {s : List α} {a : α} {n : Nat} (hd : s.Nodup)
    (ha : a ∈ s) (hf : f a = g a + n) (hne : ∀ b ∈ s, b ≠ a → f b = g b) :
    total (s.map f) = total (s.map g) + n := by
  induction s with
  | nil => cases ha
  | cons b s ih =>
    obtain ⟨hb, hd⟩ := List.nodup_cons.1 hd
    rcases List.mem_cons.1 ha with rfl | ha
    · have hs : s.map f = s.map g := by
        apply List.map_congr_left
        intro c hc
        exact hne c (List.mem_cons_of_mem _ hc) fun h => hb (h ▸ hc)
      rw [List.map_cons, List.map_cons, total_cons, total_cons, hs, hf]
      omega
    · have hba : f b = g b := hne b List.mem_cons_self fun h => hb (h ▸ ha)
      have hi := ih hd ha fun c hc => hne c (List.mem_cons_of_mem _ hc)
      rw [List.map_cons, List.map_cons, total_cons, total_cons, hba, hi]
      omega

theorem total_map_add {α : Type} (f g : α → Nat) (s : List α) :
    total (s.map fun a => f a + g a) = total (s.map f) + total (s.map g) := by
  induction s with
  | nil => rfl
  | cons a s ih =>
    simp only [List.map_cons, total_cons, ih]
    omega

/-- Members that count for nothing may be left out. -/
theorem total_filterMap {α : Type} (f : α → Option Nat) (s : List α) :
    total (s.filterMap f) = total (s.map fun a => (f a).getD 0) := by
  induction s with
  | nil => rfl
  | cons a s ih =>
    rw [List.map_cons, total_cons, ← ih]
    cases h : f a with
    | none => rw [List.filterMap_cons_none h, Option.getD_none, Nat.zero_add]
    | some n => rw [List.filterMap_cons_some h, Option.getD_some, total_cons]

theorem total_eq_zero {α : Type} {f : α → Nat} {s : List α} (h : ∀ a ∈ s, f a = 0) :
    total (s.map f) = 0 := by
  induction s with
  | nil => rfl
  | cons a s ih =>
    rw [List.map_cons, total_cons, h a List.mem_cons_self,
      ih fun b hb => h b (List.mem_cons_of_mem _ hb)]

/-- A total counts something when a member does. -/
theorem total_pos_iff {α : Type} {f : α → Nat} {s : List α} :
    0 < total (s.map f) ↔ ∃ a ∈ s, 0 < f a := by
  induction s with
  | nil => simp
  | cons a s ih =>
    simp only [List.map_cons, total_cons, Nat.add_pos_iff_pos_or_pos, ih, List.mem_cons,
      or_and_right, exists_or, exists_eq_left]

theorem total_eq_zero_iff {s : List Nat} : total s = 0 ↔ ∀ n ∈ s, n = 0 := by
  induction s with
  | nil => simp
  | cons n s ih => simp [ih]

/-- The order of the members does not matter. -/
theorem total_eq_of_perm {s t : List Nat} (h : s.Perm t) : total s = total t := by
  induction h with
  | nil => rfl
  | cons n _ ih => rw [total_cons, total_cons, ih]
  | swap m n s => simp only [total_cons, Nat.add_left_comm]
  | trans _ _ ih₁ ih₂ => rw [ih₁, ih₂]

theorem total_eq_length {α : Type} {f : α → Nat} {s : List α} (h : ∀ a ∈ s, f a = 1) :
    total (s.map f) = s.length := by
  induction s with
  | nil => rfl
  | cons a s ih =>
    rw [List.map_cons, total_cons, h a List.mem_cons_self,
      ih fun b hb => h b (List.mem_cons_of_mem _ hb), List.length_cons, Nat.add_comm]

/-- Members that count for nothing can be left out. -/
theorem total_map_filter {α : Type} {f : α → Nat} {p : α → Bool} {s : List α}
    (h : ∀ a ∈ s, p a = false → f a = 0) : total ((s.filter p).map f) = total (s.map f) := by
  induction s with
  | nil => rfl
  | cons a s ih =>
    have hi := ih fun b hb => h b (List.mem_cons_of_mem _ hb)
    cases hp : p a with
    | true =>
      rw [List.filter_cons_of_pos hp, List.map_cons, List.map_cons, total_cons, total_cons, hi]
    | false =>
      rw [List.filter_cons_of_neg (by simp [hp]), List.map_cons, total_cons, hi,
        h a List.mem_cons_self hp, Nat.zero_add]

/-- A total over lists put together adds up the totals over each of them. -/
theorem total_map_flatMap {α β : Type} (f : α → List β) (g : β → Nat) (s : List α) :
    total ((s.flatMap f).map g) = total (s.map fun a => total ((f a).map g)) := by
  induction s with
  | nil => rfl
  | cons a s ih =>
    rw [List.flatMap_cons, List.map_append, total_append, ih, List.map_cons, total_cons]

/-- Where the members with a property count for one and all others for nothing, the total is how
many have the property. -/
theorem total_eq_countP {α : Type} {f : α → Nat} {p : α → Bool} {s : List α}
    (h : ∀ a ∈ s, f a = if p a then 1 else 0) : total (s.map f) = s.countP p := by
  induction s with
  | nil => rfl
  | cons a s ih =>
    rw [List.map_cons, total_cons, h a List.mem_cons_self,
      ih fun b hb => h b (List.mem_cons_of_mem _ hb), List.countP_cons, Nat.add_comm]

end MessageCatalog
