import MessageCatalog.Catalog.Basic

/-!
# The shape of a target

A message whose text depends on a count has plural forms, and any other message has one text or at
least one form. Nothing else can be told apart in a file, so writing and reading a catalog brings
every target into shape (`Catalog.shaped`) and leaves all else as it is.
-/

namespace MessageCatalog

namespace Target

/-- The target has the shape that a message needs. -/
def Suits (numerus : Bool) : Target → Prop
  | single _ => numerus = false
  | plural forms => numerus = true ∨ forms ≠ []

instance (numerus : Bool) : (t : Target) → Decidable (t.Suits numerus)
  | single _ => inferInstanceAs (Decidable (numerus = false))
  | plural forms => inferInstanceAs (Decidable (numerus = true ∨ forms ≠ []))

/-- The target in the shape that a message needs. A text that is not in shape is lost. -/
def shaped (numerus : Bool) : Target → Target
  | single text => if numerus then plural [] else single text
  | plural [] => if numerus then plural [] else single ""
  | plural (form :: forms) => plural (form :: forms)

/-- A target is changed exactly when it does not suit. -/
theorem shaped_eq_self_iff {numerus : Bool} {t : Target} :
    t.shaped numerus = t ↔ t.Suits numerus := by
  cases numerus <;> rcases t with text | (_ | ⟨form, forms⟩) <;> simp [shaped, Suits]

theorem suits_shaped (numerus : Bool) (t : Target) : (t.shaped numerus).Suits numerus := by
  cases numerus <;> rcases t with text | (_ | ⟨form, forms⟩) <;> simp [shaped, Suits]

end Target

/-- The target of the message has the shape that it needs. -/
def Message.IsShaped (m : Message) : Prop :=
  m.target.Suits m.numerus

instance (m : Message) : Decidable m.IsShaped :=
  inferInstanceAs (Decidable (m.target.Suits m.numerus))

/-- The message with its target in shape. -/
def Message.shaped (m : Message) : Message :=
  { m with target := m.target.shaped m.numerus }

theorem Message.shaped_eq_self_iff {m : Message} : m.shaped = m ↔ m.IsShaped := by
  rw [IsShaped, ← Target.shaped_eq_self_iff]
  constructor
  · intro h
    exact congrArg Message.target h
  · intro h
    rw [shaped, h]

/-- The context with every target in shape. -/
def Context.shaped (c : Context) : Context :=
  { c with messages := c.messages.map Message.shaped }

namespace Catalog

/-- The catalog with every target in shape. -/
def shaped (c : Catalog) : Catalog :=
  { c with contexts := c.contexts.map Context.shaped }

/-- Every target has the shape that its message needs. -/
def IsShaped (c : Catalog) : Prop :=
  ∀ e ∈ c.entries, e.2.IsShaped

instance (c : Catalog) : Decidable c.IsShaped :=
  inferInstanceAs (Decidable (∀ e ∈ c.entries, _))

end Catalog

/-- A list is mapped to itself when each of its members is. -/
theorem map_eq_self_iff {α : Type} {f : α → α} {s : List α} : s.map f = s ↔ ∀ a ∈ s, f a = a := by
  have h := List.map_inj_left (f := f) (g := id) (l := s)
  rwa [List.map_id] at h

theorem Context.shaped_eq_self_iff {c : Context} :
    c.shaped = c ↔ ∀ m ∈ c.messages, m.IsShaped := by
  have hm : c.shaped = c ↔ c.messages.map Message.shaped = c.messages := by
    constructor
    · intro h
      exact congrArg Context.messages h
    · intro h
      rw [shaped, h]
  rw [hm, map_eq_self_iff]
  exact forall₂_congr fun m _ => Message.shaped_eq_self_iff

/-- A catalog is changed exactly when one of its targets is not in shape. -/
theorem Catalog.shaped_eq_self_iff {c : Catalog} : c.shaped = c ↔ c.IsShaped := by
  have hc : c.shaped = c ↔ c.contexts.map Context.shaped = c.contexts := by
    constructor
    · intro h
      exact congrArg Catalog.contexts h
    · intro h
      rw [shaped, h]
  rw [hc, map_eq_self_iff]
  simp only [Context.shaped_eq_self_iff, IsShaped, entries, List.mem_flatMap, List.mem_map]
  constructor
  · rintro h _ ⟨context, hm, m, hm', rfl⟩
    exact h context hm m hm'
  · intro h context hm m hm'
    exact h _ ⟨context, hm, m, hm', rfl⟩

end MessageCatalog
