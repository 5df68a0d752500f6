import MessageCatalog.Proofs.Merge.Settlement
import MessageCatalog.Proofs.Total

/-!
# Contexts that stand behind others

A merge looks at the first context with a name only. The messages of a later one are shadowed when
the template has the name (`shadowedCount`), and every other context is either the first one with a
name of the template or one that the template does not have (`total_contexts`).
-/

namespace MessageCatalog.Merge

/-- How many messages stand in contexts that the template has behind others with their names, the
names in `seen` included. -/
def shadowedFrom (template : Catalog) (seen : List String) : List Context → Nat
  | [] => 0
  | c :: rest =>
    (if (template.context? c.name).isSome && seen.contains c.name then c.messages.length else 0) +
      shadowedFrom template (c.name :: seen) rest

/-- How many messages stand in contexts that the template has behind others with their names. -/
def shadowedCount (existing template : Catalog) : Nat :=
  shadowedFrom template [] existing.contexts

/-- No context that the template has stands behind another one with its name and has messages. -/
def Unshadowed (existing template : Catalog) : Prop :=
  ∀ older c newer, existing.contexts = older ++ c :: newer → c.name ∈ older.map (·.name) →
    (template.context? c.name).isSome = true → c.messages = []

/-- It does not matter whether a name has been seen before or stands among those that follow. -/
theorem mem_cons_or {name d : String} {seen names : List String} :
    name ∈ d :: seen ∨ name ∈ names ↔ name ∈ seen ∨ name ∈ d :: names := by
  simp only [List.mem_cons, or_assoc, or_left_comm]

theorem shadowedFrom_eq_zero_iff (template : Catalog) (seen : List String)
    (contexts : List Context) :
    shadowedFrom template seen contexts = 0 ↔
      ∀ older c newer, contexts = older ++ c :: newer →
        c.name ∈ seen ∨ c.name ∈ older.map (·.name) →
        (template.context? c.name).isSome = true → c.messages = [] := by
  induction contexts generalizing seen with
  | nil =>
    simp [shadowedFrom]
  | cons d rest ih =>
    rw [shadowedFrom, Nat.add_eq_zero_iff, ih]
    constructor
    · rintro ⟨hd, hr⟩ older c newer he hm hs
      cases older with
      | nil =>
        obtain ⟨rfl, -⟩ := List.cons.inj he
        have hm : d.name ∈ seen := by simpa using hm
        simpa [hs, hm] using hd
      | cons e older =>
        obtain ⟨rfl, hrest⟩ := List.cons.inj he
        exact hr older c newer hrest (mem_cons_or.2 hm) hs
    · intro h
      constructor
      · split
        · next hc =>
          simp only [Bool.and_eq_true, List.contains_iff_mem] at hc
          rw [h [] d rest rfl (.inl hc.2) hc.1]
          rfl
        · rfl
      · intro older c newer he hm hs
        refine h (d :: older) c newer (by rw [he]; rfl) ?_ hs
        rw [List.map_cons]
        exact mem_cons_or.1 hm

/-- No message is left out when every context behind another one is empty. -/
theorem shadowedCount_eq_zero_iff {existing template : Catalog} :
    shadowedCount existing template = 0 ↔ Unshadowed existing template := by
  have h := shadowedFrom_eq_zero_iff template [] existing.contexts
  simp only [List.not_mem_nil, false_or] at h
  exact h

/-- How many messages the first context with a name has. -/
def firstLength (contexts : List Context) (name : String) : Nat :=
  (((contexts.find? (·.name = name)).map (·.messages)).getD []).length

theorem firstLength_cons (c : Context) (contexts : List Context) (name : String) :
    firstLength (c :: contexts) name =
      if c.name = name then c.messages.length else firstLength contexts name := by
  unfold firstLength
  by_cases h : c.name = name
  · simp [h]
  · simp [h]

theorem isSome_context?_iff {c : Catalog} {name : String} :
    (c.context? name).isSome = true ↔ name ∈ c.contexts.map (·.name) := by
  rw [Catalog.context?, List.find?_isSome]
  simp

/-- Every context is the first one with its name that the template has, one behind it, or one that
the template does not have. -/
theorem total_contexts {template : Catalog} (h : template.IsDistinct) (seen : List String)
    (contexts : List Context) :
    total ((template.contexts.map (·.name)).map fun name =>
        if name ∈ seen then 0 else firstLength contexts name) +
      shadowedFrom template seen contexts +
      total ((contexts.filter fun c => (template.context? c.name).isNone).map (·.messages.length)) =
      total (contexts.map (·.messages.length)) := by
  induction contexts generalizing seen with
  | nil =>
    rw [total_eq_zero]
    · rfl
    · intro name _
      simp [firstLength]
  | cons c contexts ih =>
    have hi := ih (c.name :: seen)
    rw [shadowedFrom, List.map_cons, total_cons]
    cases hs : (template.context? c.name).isSome with
    | false =>
      -- No name of the template is that of the context.
      have hn : (template.context? c.name).isNone = true := by
        rw [← Option.not_isSome, hs, Bool.not_false]
      have ht : ∀ name ∈ template.contexts.map (·.name),
          (if name ∈ seen then 0 else firstLength (c :: contexts) name) =
            if name ∈ c.name :: seen then 0 else firstLength contexts name := by
        intro name hm
        have hne : name ≠ c.name := by
          rintro rfl
          rw [isSome_context?_iff.2 hm] at hs
          cases hs
        simp [firstLength_cons, hne, hne.symm]
      rw [List.map_congr_left ht, List.filter_cons_of_pos (by exact hn), List.map_cons, total_cons]
      simp only [Bool.false_and, Bool.false_eq_true, if_false]
      omega
    | true =>
      have hn : ¬(template.context? c.name).isNone = true := by
        rw [← Option.not_isSome, hs, Bool.not_true]
        simp
      rw [List.filter_cons_of_neg (by exact hn)]
      by_cases hm : c.name ∈ seen
      · have ht : ∀ name ∈ template.contexts.map (·.name),
            (if name ∈ seen then 0 else firstLength (c :: contexts) name) =
              if name ∈ c.name :: seen then 0 else firstLength contexts name := by
          intro name _
          by_cases he : name = c.name
          · simp [he, hm]
          · simp [firstLength_cons, he, Ne.symm he]
        rw [List.map_congr_left ht]
        simp only [List.contains_iff_mem.2 hm, Bool.and_self, if_true]
        omega
      · -- The context is the first one with its name and counts under that name from now on.
        have ht := total_map_eq_add (n := c.messages.length) h.names (isSome_context?_iff.1 hs)
          (f := fun name => if name ∈ seen then 0 else firstLength (c :: contexts) name)
          (g := fun name => if name ∈ c.name :: seen then 0 else firstLength contexts name)
          (by simp [firstLength_cons, hm])
          (by intro name _ he; simp [firstLength_cons, he, Ne.symm he])
        have hc : seen.contains c.name = false := by simpa using hm
        simp only [hc, Bool.and_false, Bool.false_eq_true, if_false]
        omega

end MessageCatalog.Merge
