import MessageCatalog.Merge.Sync
import MessageCatalog.Proofs.Lists

/-!
# Settling the messages of a template

A settled message is the message of the template with what translators have given to it
(`Settles`), and it is in use. To settle it once more changes nothing (`Settles.settle`). What an
existing catalog has for a message is the first message with its key in the first context with its
name (`Catalog.find?_eq`).
-/

namespace MessageCatalog

/-! ## Looking up -/

namespace Catalog

/-- The messages of the first context with a name. -/
def messagesOf (c : Catalog) (name : String) : List Message :=
  ((c.context? name).map (·.messages)).getD []

theorem find?_eq (c : Catalog) (name : String) (key : Key) :
    c.find? name key = (c.messagesOf name).find? (·.key = key) := by
  unfold find? messagesOf
  cases c.context? name <;> rfl

theorem key_of_find? {c : Catalog} {name : String} {key : Key} {m : Message}
    (h : c.find? name key = some m) : m.key = key := by
  rw [find?_eq] at h
  simpa using List.find?_some h

theorem name_of_context? {c : Catalog} {name : String} {context : Context}
    (h : c.context? name = some context) : context.name = name := by
  simpa using List.find?_some h

theorem mem_entries {c : Catalog} {context : Context} {m : Message} (hc : context ∈ c.contexts)
    (hm : m ∈ context.messages) : (context.name, m) ∈ c.entries :=
  List.mem_flatMap.2 ⟨context, hc, List.mem_map_of_mem hm⟩

theorem exists_of_mem_entries {c : Catalog} {e : String × Message} (h : e ∈ c.entries) :
    ∃ context ∈ c.contexts, ∃ m ∈ context.messages, e = (context.name, m) := by
  obtain ⟨context, hc, hm⟩ := List.mem_flatMap.1 h
  obtain ⟨m, hmem, rfl⟩ := List.mem_map.1 hm
  exact ⟨context, hc, m, hmem, rfl⟩

theorem mem_entries_of_messagesOf {c : Catalog} {name : String} {m : Message}
    (h : m ∈ c.messagesOf name) : (name, m) ∈ c.entries := by
  unfold messagesOf at h
  cases hc : c.context? name with
  | none =>
    rw [hc] at h
    cases h
  | some context =>
    rw [hc] at h
    rw [← name_of_context? hc]
    exact mem_entries (List.mem_of_find?_eq_some hc) h

theorem mem_entries_of_find? {c : Catalog} {name : String} {key : Key} {m : Message}
    (h : c.find? name key = some m) : (name, m) ∈ c.entries := by
  rw [find?_eq] at h
  exact mem_entries_of_messagesOf (List.mem_of_find?_eq_some h)

/-- Where no two messages of a context have one key, this holds of the first one with a name. -/
theorem nodup_keys_messagesOf {c : Catalog}
    (h : ∀ context ∈ c.contexts, (context.messages.map (·.key)).Nodup) (name : String) :
    ((c.messagesOf name).map (·.key)).Nodup := by
  unfold messagesOf
  cases hc : c.context? name with
  | none => exact List.nodup_nil
  | some context => exact h context (List.mem_of_find?_eq_some hc)

/-- No two contexts have one name, and no two messages of a context have one key. -/
structure IsDistinct (c : Catalog) : Prop where
  names : (c.contexts.map (·.name)).Nodup
  keys : ∀ context ∈ c.contexts, (context.messages.map (·.key)).Nodup

instance (c : Catalog) : Decidable c.IsDistinct :=
  decidable_of_iff ((c.contexts.map (·.name)).Nodup ∧
      ∀ context ∈ c.contexts, (context.messages.map (·.key)).Nodup)
    ⟨fun h => ⟨h.1, h.2⟩, fun h => ⟨h.1, h.2⟩⟩

/-- In a catalog with distinct names every context is the one with its name. -/
theorem IsDistinct.context? {c : Catalog} (h : c.IsDistinct) {context : Context}
    (hm : context ∈ c.contexts) : c.context? context.name = some context :=
  find?_key Context.name h.names hm

/-- In a distinct catalog every message is found under its key. -/
theorem IsDistinct.find? {c : Catalog} (h : c.IsDistinct) {e : String × Message}
    (he : e ∈ c.entries) : c.find? e.1 e.2.key = some e.2 := by
  obtain ⟨context, hc, m, hm, rfl⟩ := exists_of_mem_entries he
  rw [Catalog.find?, h.context? hc]
  exact find?_key Message.key (h.keys context hc) hm

end Catalog

namespace Merge

theorem inTemplate_iff {template : Catalog} {name : String} {key : Key} :
    inTemplate template name key = true ↔
      ∃ c ∈ template.contexts, c.name = name ∧ key ∈ c.messages.map (·.key) := by
  simp only [inTemplate, Catalog.entries, List.any_eq_true, List.mem_flatMap, List.mem_map,
    decide_eq_true_eq]
  constructor
  · rintro ⟨_, ⟨c, hc, m, hm, rfl⟩, hn, hk⟩
    exact ⟨c, hc, hn, m, hm, hk⟩
  · rintro ⟨c, hc, hn, m, hm, hk⟩
    exact ⟨_, ⟨c, hc, m, hm, rfl⟩, hn, hk⟩

theorem inTemplate_eq_false_iff {template : Catalog} {name : String} {key : Key} :
    inTemplate template name key = false ↔
      ∀ c ∈ template.contexts, c.name = name → key ∉ c.messages.map (·.key) := by
  rw [Bool.eq_false_iff, Ne, inTemplate_iff, not_exists]
  simp only [not_and]

/-- A context of the template has no message with a key that the template does not have. -/
theorem find?_eq_none_of_not_inTemplate {template : Catalog} {name : String} {key : Key}
    {context : Context} (hc : template.context? name = some context)
    (hi : inTemplate template name key = false) : context.find? key = none := by
  rw [Context.find?, List.find?_eq_none]
  intro t ht hk
  have hm : key ∈ context.messages.map (·.key) := by
    rw [← of_decide_eq_true hk]
    exact List.mem_map_of_mem ht
  have ht : inTemplate template name key = true :=
    inTemplate_iff.2 ⟨context, List.mem_of_find?_eq_some hc, Catalog.name_of_context? hc, hm⟩
  rw [hi] at ht
  cases ht

/-! ## Messages -/

/-- The message is that of a template with what translators have given to it, and is in use. -/
structure Settles (s t : Message) : Prop where
  same : s = { t with
    oldSource := s.oldSource, oldComment := s.oldComment, translatorComment := s.translatorComment
    target := s.target, status := s.status }
  active : s.isActive = true

theorem isActive_revivedStatus (s : Status) : (revivedStatus s).isActive = true := by
  cases s <;> rfl

theorem revivedStatus_of_isActive {s : Status} (h : s.isActive = true) : revivedStatus s = s := by
  cases s with
  | finished => rfl
  | unfinished => rfl
  | vanished => cases h
  | obsolete => cases h

section Refresh
variable {m t : Message}

/-- A message that takes over from one with its shape has its text. -/
theorem target_refresh (h : m.numerus = t.numerus) (formCount : Nat) :
    (refresh m t formCount).target = m.target := by
  simp only [refresh, h, beq_self_eq_true, if_true]

theorem status_refresh (h : m.numerus = t.numerus) (formCount : Nat) :
    (refresh m t formCount).status = revivedStatus m.status := by
  simp only [refresh, h, beq_self_eq_true, if_true]

/-- A message that takes over from one with another shape has its text in the new shape. -/
theorem target_refresh_of_ne (h : m.numerus ≠ t.numerus) (formCount : Nat) :
    (refresh m t formCount).target = reshape m.target t.numerus formCount := by
  simp only [refresh, beq_eq_false_iff_ne.2 h, Bool.false_eq_true, if_false]

theorem status_refresh_of_ne (h : m.numerus ≠ t.numerus) (formCount : Nat) :
    (refresh m t formCount).status = .unfinished := by
  simp only [refresh, beq_eq_false_iff_ne.2 h, Bool.false_eq_true, if_false]

end Refresh

theorem settles_refresh (previous t : Message) (formCount : Nat) :
    Settles (refresh previous t formCount) t where
  same := rfl
  active := by
    rw [Message.isActive]
    by_cases hn : previous.numerus = t.numerus
    · rw [status_refresh hn]
      exact isActive_revivedStatus _
    · rw [status_refresh_of_ne hn]
      rfl

theorem settles_fresh (t : Message) (target : Target) : Settles (fresh t target) t :=
  ⟨rfl, rfl⟩

/-- Whatever stood in the existing catalog, the result is the message of the template. -/
theorem settles_settle (existing : Catalog) (options : Options) (formCount : Nat)
    (previous : Option Message) (t : Message) :
    Settles (settle existing options formCount previous t).1 t := by
  cases previous with
  | some previous => exact settles_refresh previous t formCount
  | none =>
    unfold settle
    cases reusable? existing options t with
    | some target => exact settles_fresh t target
    | none => exact settles_fresh t _

namespace Settles

variable {s t : Message}

theorem key (h : Settles s t) : s.key = t.key := by
  rw [h.same]
  rfl

theorem numerus (h : Settles s t) : s.numerus = t.numerus := by
  rw [h.same]

/-- A settled message takes from itself what it has already. -/
theorem refresh (h : Settles s t) (formCount : Nat) : refresh s t formCount = s := by
  have hn : (s.numerus == t.numerus) = true := by rw [h.numerus, beq_self_eq_true]
  unfold Merge.refresh
  simp only [hn, if_true, revivedStatus_of_isActive h.active]
  exact h.same.symm

/-- A settled message is settled as itself. -/
theorem settle (h : Settles s t) (existing : Catalog) (options : Options) (formCount : Nat) :
    settle existing options formCount (some s) t = (s, { kept := 1 }) := by
  unfold Merge.settle
  simp only [h.refresh, h.active, if_true]

end Settles

end Merge
end MessageCatalog
