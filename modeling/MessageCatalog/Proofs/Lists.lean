import Mathlib.Data.List.Forall2
import Mathlib.Data.List.Induction
import Mathlib.Data.List.Nodup
import Mathlib.Data.List.Perm.Basic

/-!
# Lists by their keys and by their parts

The first member of a list with a key, which is the only one where no two members have one key,
lists that are put together of what each member of another one gives, and the groups of the members
with one key.
-/

namespace MessageCatalog

/-! ## The member with a key -/

/-- In a list without equal keys every member is the first with its key. -/
theorem find?_key {α κ : Type} [DecidableEq κ] (f : α → κ) {s : List α} (hd : (s.map f).Nodup)
    {a : α} (ha : a ∈ s) : s.find? (fun b => decide (f b = f a)) = some a := by
  induction s with
  | nil => cases ha
  | cons b s ih =>
    simp only [List.map_cons, List.nodup_cons, List.mem_map, not_exists, not_and] at hd
    rcases List.mem_cons.1 ha with rfl | ha
    · simp
    · have hne : f b ≠ f a := fun h => hd.1 a ha h.symm
      rw [List.find?_cons_of_neg (by simpa using hne)]
      exact ih hd.2 ha

/-- A member whose key no other member has is the first with a property that only members with the
key have. -/
theorem find?_of_count_eq_one {α κ : Type} [BEq κ] [LawfulBEq κ] {f : α → κ} {p : α → Bool}
    {s : List α} {a : α} (ha : a ∈ s) (hc : (s.map f).count (f a) = 1) (hp : p a = true)
    (hf : ∀ b, p b = true → f b = f a) : s.find? p = some a := by
  induction s with
  | nil => cases ha
  | cons b s ih =>
    rcases List.mem_cons.1 ha with rfl | ha
    · exact List.find?_cons_of_pos hp
    · -- The key occurs behind the first member, so the first member has another one.
      have hpos : 0 < (s.map f).count (f a) := List.count_pos_iff.2 (List.mem_map_of_mem ha)
      rw [List.map_cons, List.count_cons] at hc
      have hne : ¬f b = f a := by
        intro h
        rw [if_pos (beq_iff_eq.2 h)] at hc
        omega
      rw [if_neg (by simpa using hne), Nat.add_zero] at hc
      rw [List.find?_cons_of_neg fun h => hne (hf b h)]
      exact ih ha hc

/-- A change that keeps the keys commutes with looking up. -/
theorem find?_map_key {α β κ : Type} [DecidableEq κ] {f : α → κ} {g : β → κ} {h : α → β}
    (hk : ∀ a, g (h a) = f a) (s : List α) (key : κ) :
    (s.map h).find? (fun b => decide (g b = key)) =
      (s.find? fun a => decide (f a = key)).map h := by
  simp only [List.find?_map, Function.comp_def, hk]

/-- What is found is found again when some of the others are left out. -/
theorem find?_filter_of_find? {α : Type} {p q : α → Bool} {s : List α} {a : α}
    (h : s.find? p = some a) (hq : q a = true) : (s.filter q).find? p = some a := by
  induction s with
  | nil => cases h
  | cons b s ih =>
    cases hp : p b with
    | true =>
      rw [List.find?_cons_of_pos hp, Option.some.injEq] at h
      subst h
      rw [List.filter_cons_of_pos hq, List.find?_cons_of_pos hp]
    | false =>
      rw [List.find?_cons_of_neg (by simp [hp])] at h
      cases hb : q b with
      | true => rw [List.filter_cons_of_pos hb, List.find?_cons_of_neg (by simp [hp]), ih h]
      | false => rw [List.filter_cons_of_neg (by simp [hb]), ih h]

/-- What is found first with one property is found first with two of them, if it has both. -/
theorem find?_and_of_find? {α : Type} {p q : α → Prop} [DecidablePred p] [DecidablePred q]
    {s : List α} {a : α} (h : s.find? (fun b => p b) = some a) (hq : q a) :
    s.find? (fun b => p b ∧ q b) = some a := by
  obtain ⟨hp, before, behind, rfl, hbefore⟩ := List.find?_eq_some_iff_append.1 h
  refine List.find?_eq_some_iff_append.2
    ⟨decide_eq_true ⟨of_decide_eq_true hp, hq⟩, before, behind, rfl, fun b hb => ?_⟩
  have hno : ¬p b := by simpa using hbefore b hb
  simp [hno]

/-! ## Parts -/

theorem flatMap_nil {α β : Type} (s : List α) : (s.flatMap fun _ => ([] : List β)) = [] :=
  List.flatMap_eq_nil_iff.2 fun _ _ => rfl

/-- What is made of the members with a property alone is made of a shorter list. -/
theorem flatMap_ite {α β : Type} (p : α → Prop) [DecidablePred p] (f : α → β) (s : List α) :
    (s.flatMap fun a => if p a then [f a] else []) = (s.filter p).map f := by
  induction s with
  | nil => rfl
  | cons a s ih => by_cases hp : p a <;> simp [hp, ih]

/-- In a list without equal keys one member alone has a key. -/
theorem flatMap_key {α β κ : Type} [DecidableEq κ] (f : α → κ) (g : α → List β) {s : List α}
    (hd : (s.map f).Nodup) {a : α} (ha : a ∈ s) :
    (s.flatMap fun b => if f b = f a then g b else []) = g a := by
  induction s with
  | nil => cases ha
  | cons b s ih =>
    simp only [List.map_cons, List.nodup_cons, List.mem_map, not_exists, not_and] at hd
    rw [List.flatMap_cons]
    rcases List.mem_cons.1 ha with rfl | ha
    · have hnil : (s.flatMap fun b => if f b = f a then g b else []) = [] :=
        List.flatMap_eq_nil_iff.2 fun b hb => if_neg (hd.1 b hb)
      rw [if_pos rfl, hnil, List.append_nil]
    · have hne : f b ≠ f a := fun h => hd.1 a ha h.symm
      rw [if_neg hne, List.nil_append, ih hd.2 ha]

/-- Two lists may be gone through either way, but for the order of what is found. -/
theorem flatMap_comm_perm {α β γ : Type} (s : List α) (t : List β) (f : α → β → List γ) :
    (s.flatMap fun a => t.flatMap (f a)).Perm (t.flatMap fun b => s.flatMap fun a => f a b) := by
  induction s with
  | nil => simp
  | cons a s ih =>
    simp only [List.flatMap_cons]
    exact (ih.append_left _).trans (List.flatMap_append_perm t (f a) _)

/-! ## Groups -/

/-- The different members stand in the order of their first use. -/
theorem eraseDups_concat {α : Type} [DecidableEq α] (s : List α) (a : α) :
    (s ++ [a]).eraseDups = if a ∈ s then s.eraseDups else s.eraseDups ++ [a] := by
  have hone : [a].eraseDups = [a] := List.eraseDups_cons
  rw [List.eraseDups_append, List.cons_removeAll]
  by_cases ha : a ∈ s <;> simp [ha, hone]

theorem nodup_eraseDups {α : Type} [DecidableEq α] (s : List α) : s.eraseDups.Nodup := by
  induction s using List.reverseRecOn with
  | nil => exact List.nodup_nil
  | append_singleton s a ih =>
    rw [eraseDups_concat]
    split
    · exact ih
    · next ha =>
      have hnew : a ∉ s.eraseDups := by rwa [List.mem_eraseDups]
      rw [← List.concat_eq_append]
      exact ih.concat hnew

/-- Grouping by keys loses no member and repeats none. -/
theorem flatMap_filter_perm {α κ : Type} [DecidableEq κ] (f : α → κ) {keys : List κ}
    (hd : keys.Nodup) {s : List α} (hs : ∀ a ∈ s, f a ∈ keys) :
    (keys.flatMap fun key => s.filter (f · = key)).Perm s := by
  induction keys generalizing s with
  | nil =>
    cases s with
    | nil => exact .nil
    | cons a s => exact absurd (hs a List.mem_cons_self) List.not_mem_nil
  | cons key keys ih =>
    obtain ⟨hkey, hd⟩ := List.nodup_cons.1 hd
    have hrest : ∀ a ∈ (s.filter fun a => !decide (f a = key)), f a ∈ keys := by
      intro a ha
      obtain ⟨ha, hne⟩ := List.mem_filter.1 ha
      exact (List.mem_cons.1 (hs a ha)).resolve_left (by simpa using hne)
    -- The groups with the other keys are groups of the members that do not have this one.
    have hgroups : (keys.flatMap fun other => s.filter (f · = other)) =
        keys.flatMap fun other => (s.filter fun a => !decide (f a = key)).filter (f · = other) := by
      refine List.flatMap_congr fun other hother => ?_
      rw [List.filter_filter]
      refine List.filter_congr fun a _ => ?_
      have hne : f a = other → f a ≠ key := fun h hk => hkey (hk ▸ h ▸ hother)
      simpa using hne
    rw [List.flatMap_cons, hgroups]
    exact ((ih hd hrest).append_left _).trans (List.filter_append_perm _ s)

/-! ## Images -/

/-- Lists are related by a function when one is the image of the other. -/
theorem forall₂_iff_eq_map {α β : Type} {R : α → β → Prop} {f : α → β}
    (hR : ∀ a b, R a b ↔ b = f a) {s : List α} {t : List β} :
    List.Forall₂ R s t ↔ t = s.map f := by
  have hf : R = fun a b => f a = b := funext₂ fun a b => propext ((hR a b).trans eq_comm)
  have hmap : List.Forall₂ Eq (s.map f) t ↔ List.Forall₂ (fun a b => f a = b) s t :=
    List.forall₂_map_left_iff
  rw [hf, ← hmap, List.forall₂_eq_eq_eq, eq_comm]

/-- What can be done with every member of a list is done with all of them. -/
theorem mapM_map_eq_some {α β γ : Type} {f : α → β} {g : β → Option γ} {k : α → γ} {s : List α}
    (h : ∀ a ∈ s, g (f a) = some (k a)) : (s.map f).mapM g = some (s.map k) := by
  induction s with
  | nil => rfl
  | cons a s ih =>
    rw [List.map_cons, List.mapM_cons, h a List.mem_cons_self,
      ih fun b hb => h b (List.mem_cons_of_mem _ hb)]
    rfl

end MessageCatalog
