import Mathlib.Data.List.Forall2
import MessageCatalog.Proofs.Merge.Layout

/-!
# The shape of a merged catalog

A merged catalog has the contexts of its template in front, each with the messages of the template
in use. Everything else in it is retired: it comes from the existing catalog, has text and is
unknown to the template (`IsMerge`). So the entries in use are those of the template
(`IsMerge.entries_inUse`).
-/

namespace MessageCatalog.Merge

section Shape
variable (existing template : Catalog) (options : Options)

/-- A message with text that comes from an existing catalog, and is retired as the template has
none with its key in a context with its name. -/
structure IsRetired (name : String) (m : Message) : Prop where
  notDropped : options.dropObsolete = false
  status : m.status = .vanished ∨ m.status = .obsolete
  hasText : m.target.isEmpty = false
  unknown : ∀ t, (name, t) ∈ template.entries → t.key ≠ m.key
  origin : ∃ old, (name, old) ∈ existing.entries ∧ old.key = m.key ∧
    m = { old with status := m.status }

/-- A context with the settled messages of a context of the template, and retired ones behind. -/
structure IsSettled (c t : Context) : Prop where
  name : c.name = t.name
  messages : ∃ inUse rest, c.messages = inUse ++ rest ∧ List.Forall₂ Settles inUse t.messages ∧
    ∀ m ∈ rest, IsRetired existing template options c.name m

/-- What is left of an existing context with a name that the template does not have. -/
structure IsLeft (c old : Context) : Prop where
  name : c.name = old.name
  unknown : ∀ t ∈ template.contexts, t.name ≠ c.name
  hasMessage : c.messages ≠ []
  messages : ∀ m ∈ c.messages, IsRetired existing template options c.name m

/-- A catalog with the contexts of a template, settled, and behind them what is left of other
contexts of an existing catalog, in their order. -/
structure IsMerge (merged : Catalog) : Prop where
  version : merged.version = existing.version
  language : merged.language = existing.language
  contexts : ∃ settled left, merged.contexts = settled ++ left ∧
    List.Forall₂ (IsSettled existing template options) settled template.contexts ∧
    List.SublistForall₂ (IsLeft existing template options) left existing.contexts

end Shape

/-- What stands in a list stands beside something. -/
theorem exists_of_mem_forall₂ {α β : Type} {R : α → β → Prop} {s : List α} {t : List β} {a : α}
    (h : List.Forall₂ R s t) (ha : a ∈ s) : ∃ b ∈ t, R a b := by
  induction h with
  | nil => cases ha
  | cons hr _ ih =>
    rcases List.mem_cons.1 ha with rfl | ha
    · exact ⟨_, List.mem_cons_self, hr⟩
    · obtain ⟨b, hb, h⟩ := ih ha
      exact ⟨b, List.mem_cons_of_mem _ hb, h⟩

section Merged
variable {existing template : Catalog} {options : Options} {name : String}

/-! ## The parts of a merge -/

theorem retiredStatus_eq (s : Status) :
    retiredStatus s = .vanished ∨ retiredStatus s = .obsolete := by
  cases s with
  | finished => exact .inl rfl
  | unfinished => exact .inr rfl
  | vanished => exact .inl rfl
  | obsolete => exact .inr rfl

theorem isRetired_of_stays {old : Message} (hm : (name, old) ∈ existing.entries)
    (hs : stays template options name old = true) :
    IsRetired existing template options name old.retired := by
  simp only [stays, Bool.and_eq_true, Bool.not_eq_true', Bool.or_eq_false_iff] at hs
  obtain ⟨hi, hd, ht⟩ := hs
  refine ⟨hd, retiredStatus_eq old.status, ht, ?_, old, hm, rfl, rfl⟩
  intro t htm hk
  rw [inTemplate, List.any_eq_false] at hi
  exact hi _ htm (decide_eq_true ⟨rfl, hk⟩)

theorem isRetired_of_mem_retire {live : List Key} {olds : List Message} {m : Message}
    (ho : ∀ old ∈ olds, (name, old) ∈ existing.entries)
    (hm : m ∈ (retire template options name live olds).1) :
    IsRetired existing template options name m := by
  obtain ⟨old, hold, hs, rfl⟩ := mem_retire.1 hm
  exact isRetired_of_stays (ho old hold) hs

theorem isSettled_settleContext (formCount : Nat) (t : Context) :
    IsSettled existing template options
      (settleContext existing template options formCount t).1 t := by
  rw [settleContext_eq]
  refine ⟨rfl, _, _, rfl, ?_, fun m hm => ?_⟩
  · exact List.forall₂_map_left_iff.2 (List.forall₂_same.2 fun m _ => settles_settleIn _ _ _ _ m)
  · exact isRetired_of_mem_retire (fun old => Catalog.mem_entries_of_messagesOf) hm

theorem isLeft_retireContext {old : Context} (ho : old ∈ existing.contexts)
    (hn : template.context? old.name = none)
    (hne : (retireContext template options old).1.messages ≠ []) :
    IsLeft existing template options (retireContext template options old).1 old := by
  have hr : ∀ m ∈ (retireContext template options old).1.messages,
      IsRetired existing template options old.name m :=
    fun m hm => isRetired_of_mem_retire (fun m' hm' => Catalog.mem_entries ho hm') hm
  exact ⟨rfl, fun t ht hname => List.find?_eq_none.1 hn t ht (decide_eq_true hname), hne, hr⟩

/-- What is left stands in the order of the existing contexts. -/
theorem isLeft_goneContexts :
    List.SublistForall₂ (IsLeft existing template options)
      (goneContexts existing template options) existing.contexts := by
  rw [List.sublistForall₂_iff, goneContexts, unknownContexts, List.filter_map]
  refine ⟨_, List.forall₂_map_left_iff.2 (List.forall₂_same.2 ?_),
    List.filter_sublist.trans List.filter_sublist⟩
  intro old h
  simp only [List.mem_filter, Option.isNone_iff_eq_none, Function.comp_apply,
    Bool.not_eq_true', List.isEmpty_eq_false_iff] at h
  exact isLeft_retireContext h.1.1 h.1.2 h.2

theorem isMerge_sync :
    IsMerge existing template options (sync existing template options).1 := by
  rw [sync_eq]
  refine ⟨rfl, rfl, _, _, rfl, ?_, isLeft_goneContexts⟩
  exact List.forall₂_map_left_iff.2 (List.forall₂_same.2 fun t _ => isSettled_settleContext _ t)

/-! ## The entries of a merge -/

/-- An entry of the template, settled under its name. -/
def SettlesEntry (s t : String × Message) : Prop :=
  s.1 = t.1 ∧ Settles s.2 t.2

theorem IsRetired.isActive {m : Message} (h : IsRetired existing template options name m) :
    m.isActive = false := by
  rw [Message.isActive]
  rcases h.status with hs | hs <;> rw [hs] <;> rfl

/-- No retired message is in use. -/
theorem filter_entries_eq_nil {ms : List Message}
    (h : ∀ m ∈ ms, IsRetired existing template options name m) :
    (ms.map fun m => (name, m)).filter (·.2.isActive) = [] := by
  rw [List.filter_eq_nil_iff]
  intro e he
  obtain ⟨m, hm, rfl⟩ := List.mem_map.1 he
  simp [(h m hm).isActive]

theorem filter_entries_of_settles {inUse ts : List Message} (h : List.Forall₂ Settles inUse ts) :
    List.Forall₂ SettlesEntry ((inUse.map fun m => (name, m)).filter (·.2.isActive))
      (ts.map fun t => (name, t)) := by
  induction h with
  | nil => exact .nil
  | cons hs _ ih =>
    rw [List.map_cons, List.filter_cons, if_pos hs.active]
    exact .cons ⟨rfl, hs⟩ ih

theorem IsSettled.entries_inUse {c t : Context} (h : IsSettled existing template options c t) :
    List.Forall₂ SettlesEntry ((c.messages.map fun m => (c.name, m)).filter (·.2.isActive))
      (t.messages.map fun m => (t.name, m)) := by
  obtain ⟨inUse, rest, hm, hs, hr⟩ := h.messages
  rw [hm, List.map_append, List.filter_append, filter_entries_eq_nil hr, List.append_nil, ← h.name]
  exact filter_entries_of_settles hs

theorem filter_entries_of_isLeft {left olds : List Context}
    (h : List.SublistForall₂ (IsLeft existing template options) left olds) :
    (left.flatMap fun c => c.messages.map fun m => (c.name, m)).filter (·.2.isActive) = [] := by
  induction h with
  | nil => rfl
  | cons hold _ ih =>
    rw [List.flatMap_cons, List.filter_append, ih, filter_entries_eq_nil hold.messages]
    rfl
  | cons_right _ ih => exact ih

variable {merged : Catalog}

/-- The entries in use are those of the template. -/
theorem IsMerge.entries_inUse (h : IsMerge existing template options merged) :
    List.Forall₂ SettlesEntry (merged.entries.filter (·.2.isActive)) template.entries := by
  obtain ⟨settled, left, hc, hs, hl⟩ := h.contexts
  rw [Catalog.entries, hc, List.flatMap_append, List.filter_append, filter_entries_of_isLeft hl,
    List.append_nil, List.filter_flatMap]
  exact List.rel_flatMap hs fun c t ht => ht.entries_inUse

/-- Whatever is not in use is retired. -/
theorem IsMerge.isActive_or_isRetired (h : IsMerge existing template options merged)
    {e : String × Message} (he : e ∈ merged.entries) :
    e.2.isActive = true ∨ IsRetired existing template options e.1 e.2 := by
  obtain ⟨settled, left, hcontexts, hs, hl⟩ := h.contexts
  obtain ⟨c, hc, m, hm, rfl⟩ := Catalog.exists_of_mem_entries he
  rw [hcontexts] at hc
  rcases List.mem_append.1 hc with hc | hc
  · obtain ⟨t, -, ht⟩ := exists_of_mem_forall₂ hs hc
    obtain ⟨inUse, rest, hparts, hinUse, hrest⟩ := ht.messages
    rw [hparts] at hm
    rcases List.mem_append.1 hm with hm | hm
    · obtain ⟨t, -, ht⟩ := exists_of_mem_forall₂ hinUse hm
      exact .inl ht.active
    · exact .inr (hrest m hm)
  · obtain ⟨olds, hl, -⟩ := List.sublistForall₂_iff.1 hl
    obtain ⟨old, -, ho⟩ := exists_of_mem_forall₂ hl hc
    exact .inr (ho.messages m hm)

/-- When retired messages are dropped, every entry is in use. -/
theorem IsMerge.filter_entries (h : IsMerge existing template options merged)
    (hd : options.dropObsolete = true) : merged.entries.filter (·.2.isActive) = merged.entries := by
  apply List.filter_eq_self.2
  intro e he
  rcases h.isActive_or_isRetired he with ha | hr
  · exact ha
  · rw [hr.notDropped] at hd
    cases hd

/-! ## The counts of a merge -/

theorem settled_retire (live : List Key) (ms : List Message) :
    (retire template options name live ms).2.settled = 0 := by
  induction ms generalizing live with
  | nil => rfl
  | cons m ms ih =>
    have hs : (retiredSummary m.status).settled = 0 := by cases m.status <;> rfl
    rw [retire_cons]
    split
    · dsimp only
      split
      · rw [settled_add, ih]
        rfl
      · exact ih _
    · split
      · rw [settled_add, ih]
        rfl
      · rw [settled_add, hs, ih]

/-- A message of the template is counted once. -/
theorem Outcome.settled {formCount : Nat} {t : Message} {s : Message × Summary}
    (h : Outcome existing options formCount name t s) : s.2.settled = 1 := by
  cases h <;> rfl

theorem settled_sync : (sync existing template options).2.settled = template.messageCount := by
  rw [count_sync existing template options rfl settled_add fun _ => settled_retire [],
    total_eq_length fun t _ => (outcome_settleIn existing options _ t.1 t.2).settled,
    Catalog.length_entries]

end Merged

/-- The result of a merge has the contexts and the messages of the template, in use, and otherwise
only retired messages of the existing catalog. Each message of the template is counted once, and the
entries in use are its entries; there are no others when retired messages are dropped. -/
theorem sync_structure (existing template : Catalog) (options : Options) :
    let r := sync existing template options
    IsMerge existing template options r.1 ∧
      r.2.kept + r.2.revived + r.2.added + r.2.sameText = template.messageCount ∧
      List.Forall₂ SettlesEntry (r.1.entries.filter (·.2.isActive)) template.entries ∧
      (options.dropObsolete = true → List.Forall₂ SettlesEntry r.1.entries template.entries) := by
  intro r
  have hm : IsMerge existing template options r.1 := isMerge_sync
  refine ⟨hm, settled_sync, hm.entries_inUse, fun hd => ?_⟩
  rw [← hm.filter_entries hd]
  exact hm.entries_inUse

end MessageCatalog.Merge
