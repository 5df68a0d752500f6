import MessageCatalog.Proofs.Catalog.RoundTrip
import MessageCatalog.Proofs.Merge.Layout
import MessageCatalog.Proofs.Merge.Shadowing

/-!
# What becomes of every message

Each message of an existing catalog is settled, left as retired or counted as dropped, and each
message of a template without one is counted as added. Only the messages of a context that stands
behind another one with its name, when the template has that name, are in none of these counts
(`shadowedCount`).
-/

namespace MessageCatalog.Merge

section Contexts
variable {existing template : Catalog} {options : Options} {name : String}

/-! ## Messages that are retired -/

theorem gained_retiredSummary (s : Status) : (retiredSummary s).gained = 0 := by
  cases s <;> rfl

theorem dropped_retiredSummary (s : Status) : (retiredSummary s).dropped = 0 := by
  cases s <;> rfl

theorem gained_retire (live : List Key) (ms : List Message) :
    (retire template options name live ms).2.gained = 0 := by
  induction ms generalizing live with
  | nil => rfl
  | cons m ms ih =>
    rw [retire_cons]
    split
    · dsimp only
      split
      · rw [gained_add, ih]
        rfl
      · exact ih _
    · split
      · rw [gained_add, ih]
        rfl
      · rw [gained_add, gained_retiredSummary, ih]

/-- Every message is left, dropped or the first one with a key of the template. -/
theorem length_retire (options : Options) {keys : List Key} (hd : keys.Nodup)
    (hk : ∀ key, inTemplate template name key = true ↔ key ∈ keys) (live : List Key)
    (ms : List Message) :
    ms.length = (retire template options name live ms).1.length +
      (retire template options name live ms).2.dropped +
      total (keys.map fun key => if key ∉ live ∧ key ∈ ms.map (·.key) then 1 else 0) := by
  induction ms generalizing live with
  | nil =>
    rw [retire_nil, total_eq_zero]
    · rfl
    · simp
  | cons m ms ih =>
    rw [retire_cons, List.length_cons]
    split
    · next hi =>
      -- The first message with a key of the template moves from the counted keys to the live ones.
      have hm : m.key ∈ keys := (hk _).1 hi
      have h := ih (m.key :: live)
      dsimp only
      split
      · next hl =>
        have hl : m.key ∈ live := by simpa using hl
        have ht : ∀ key ∈ keys, (if key ∉ live ∧ key ∈ (m :: ms).map (·.key) then 1 else 0) =
            if key ∉ m.key :: live ∧ key ∈ ms.map (·.key) then 1 else 0 := by
          intro key _
          by_cases he : key = m.key
          · simp [he, hl]
          · simp [he]
        rw [List.map_congr_left ht, dropped_add]
        dsimp only
        omega
      · next hl =>
        have hl : m.key ∉ live := by simpa using hl
        have ht := total_map_eq_add (n := 1) hd hm
          (f := fun key => if key ∉ live ∧ key ∈ (m :: ms).map (·.key) then 1 else 0)
          (g := fun key => if key ∉ m.key :: live ∧ key ∈ ms.map (·.key) then 1 else 0)
          (by simp [hl]) (by intro key _ he; simp [he])
        omega
    · next hi =>
      have ht : ∀ key ∈ keys, (if key ∉ live ∧ key ∈ (m :: ms).map (·.key) then 1 else 0) =
          if key ∉ live ∧ key ∈ ms.map (·.key) then 1 else 0 := by
        intro key hm
        have he : key ≠ m.key := fun he => hi ((hk _).2 (he ▸ hm))
        simp [he]
      have h := ih live
      rw [List.map_congr_left ht]
      split
      · rw [dropped_add]
        dsimp only
        omega
      · rw [dropped_add, dropped_retiredSummary]
        dsimp only
        rw [List.length_cons]
        omega

/-! ## Messages that are settled -/

section Settled
variable {formCount : Nat} {t : Message} {s : Message × Summary}

theorem Outcome.dropped (h : Outcome existing options formCount name t s) : s.2.dropped = 0 := by
  cases h <;> rfl

/-- A message of the template is new unless there is one with its key. -/
theorem Outcome.gained (h : Outcome existing options formCount name t s) :
    (if t.key ∈ (existing.messagesOf name).map (·.key) then 1 else 0) + s.2.gained = 1 := by
  have hf : t.key ∈ (existing.messagesOf name).map (·.key) ↔
      (existing.find? name t.key).isSome = true := by
    rw [Catalog.find?_eq, List.find?_isSome]
    simp
  simp only [hf]
  cases h with
  | kept hm _ => rw [hm]; rfl
  | revived hm _ => rw [hm]; rfl
  | reused hn _ => rw [hn]; rfl
  | added hn _ => rw [hn]; rfl

end Settled

/-! ## Contexts -/

theorem inTemplate_iff_mem_keys (h : template.IsDistinct) {context : Context}
    (hc : context ∈ template.contexts) (key : Key) :
    inTemplate template context.name key = true ↔ key ∈ context.messages.map (·.key) := by
  rw [inTemplate_iff]
  constructor
  · rintro ⟨c, hm, hn, hk⟩
    have he : some c = some context := by
      rw [← h.context? hm, ← h.context? hc, hn]
    rwa [Option.some.inj he] at hk
  · intro hk
    exact ⟨context, hc, rfl, hk⟩

/-- A context of the template accounts for the messages of the first context with its name. -/
theorem account_settleContext (h : template.IsDistinct) {context : Context}
    (hc : context ∈ template.contexts) (formCount : Nat) :
    (settleContext existing template options formCount context).1.messages.length +
        (settleContext existing template options formCount context).2.dropped =
      (existing.messagesOf context.name).length +
        (settleContext existing template options formCount context).2.gained := by
  have hr := length_retire options (h.keys context hc) (inTemplate_iff_mem_keys h hc) []
    (existing.messagesOf context.name)
  have hone : total (context.messages.map fun t =>
      (if t.key ∈ (existing.messagesOf context.name).map (·.key) then 1 else 0) +
        (settleIn existing options formCount context.name t).2.gained) = context.messages.length :=
    total_eq_length fun t _ => (outcome_settleIn existing options formCount context.name t).gained
  have hdropped : total ((context.messages.map fun t =>
      (settleIn existing options formCount context.name t).2).map (·.dropped)) = 0 := by
    rw [List.map_map]
    exact total_eq_zero fun t _ =>
      (outcome_settleIn existing options formCount context.name t).dropped
  rw [total_map_add] at hone
  rw [settleContext_eq]
  simp only [List.length_append, settledMessages, List.length_map, dropped_add, dropped_sum,
    gained_add, gained_sum, hdropped, retireIn, gained_retire]
  simp only [List.map_map, Function.comp_def, List.not_mem_nil, not_false_eq_true, true_and] at hr ⊢
  omega

/-- A context that the template does not have accounts for its own messages. -/
theorem account_retireContext {old : Context} (h : (template.context? old.name).isNone = true) :
    (retireContext template options old).1.messages.length +
        (retireContext template options old).2.dropped = old.messages.length := by
  have hk : ∀ key, inTemplate template old.name key = true ↔ key ∈ ([] : List Key) := by
    intro key
    rw [inTemplate_iff]
    constructor
    · rintro ⟨c, hm, hn, -⟩
      have hne := List.find?_eq_none.1 (Option.isNone_iff_eq_none.1 h) c hm
      simp [hn] at hne
    · intro hm
      cases hm
  have hr := length_retire options List.nodup_nil hk [] old.messages
  rw [retireContext_eq]
  simp only [List.map_nil, total_nil, Nat.add_zero] at hr
  exact hr.symm

end Contexts

/-! ## Catalogs -/

section Sync
variable (existing template : Catalog) (options : Options)

theorem length_goneContexts :
    total ((goneContexts existing template options).map (·.messages.length)) =
      total ((unknownContexts existing template).map fun c =>
        (retireContext template options c).1.messages.length) := by
  rw [goneContexts, total_map_filter, List.map_map]
  · rfl
  · intro c _ he
    simpa using he

/-- The contexts of the template account for the first contexts with their names. -/
theorem account_settledContexts (h : template.IsDistinct) (formCount : Nat) :
    total (template.contexts.map fun c =>
        (settleContext existing template options formCount c).1.messages.length) +
      total (template.contexts.map fun c =>
        (settleContext existing template options formCount c).2.dropped) =
      total (template.contexts.map fun c => (existing.messagesOf c.name).length) +
        total (template.contexts.map fun c =>
          (settleContext existing template options formCount c).2.gained) := by
  rw [← total_map_add, ← total_map_add]
  exact congrArg total (List.map_congr_left fun c hc => account_settleContext h hc formCount)

/-- The other contexts account for themselves. -/
theorem account_unknownContexts :
    total ((unknownContexts existing template).map fun c =>
        (retireContext template options c).1.messages.length) +
      total ((unknownContexts existing template).map fun c =>
        (retireContext template options c).2.dropped) =
      total ((unknownContexts existing template).map (·.messages.length)) := by
  rw [← total_map_add]
  exact congrArg total (List.map_congr_left fun c hc =>
    account_retireContext (List.mem_filter.1 hc).2)

/-- A merge accounts for every message that does not stand in a context behind another one. -/
theorem account_sync (h : template.IsDistinct) :
    (sync existing template options).1.messageCount + (sync existing template options).2.dropped +
        shadowedCount existing template =
      existing.messageCount + (sync existing template options).2.gained := by
  have hs := account_settledContexts existing template options h (formCountOf existing)
  have hu := account_unknownContexts existing template options
  have hg := length_goneContexts existing template options
  have hc := total_contexts h [] existing.contexts
  have hz : total ((unknownContexts existing template).map fun c =>
      (retireContext template options c).2.gained) = 0 :=
    total_eq_zero fun c _ => gained_retire [] c.messages
  have hf : total ((template.contexts.map (·.name)).map fun name =>
      if name ∈ [] then 0 else firstLength existing.contexts name) =
        total (template.contexts.map fun c => (existing.messagesOf c.name).length) := by
    rw [List.map_map]
    simp only [Function.comp_def, List.not_mem_nil, if_false]
    rfl
  rw [hf, ← unknownContexts, ← shadowedCount] at hc
  rw [sync_eq, dropped_sum, gained_sum]
  simp only [Catalog.messageCount, List.map_append, List.map_map, Function.comp_def, total_append,
    hg, hz]
  omega

/-- What a merge holds and drops is what there was before and what it adds, less the messages of
contexts that stand behind others. So all messages are counted exactly when there are none of
these. -/
theorem sync_counts (h : template.IsDistinct) :
    (sync existing template options).1.messageCount + (sync existing template options).2.dropped +
        shadowedCount existing template =
      existing.messageCount + (sync existing template options).2.added +
        (sync existing template options).2.sameText ∧
    ((sync existing template options).1.messageCount + (sync existing template options).2.dropped =
        existing.messageCount + (sync existing template options).2.added +
          (sync existing template options).2.sameText ↔
      Unshadowed existing template) := by
  have ha := account_sync existing template options h
  rw [Summary.gained] at ha
  rw [← shadowedCount_eq_zero_iff]
  omega

/-- A catalog in which a context stands twice. -/
def splitCatalog : Catalog where
  contexts := [
    { name := "Main", messages := [{ source := "Open", target := .single "Öffnen" }] },
    { name := "Main", messages := [{ source := "Quit", target := .single "Beenden" }] }]

/-- A template with one of its messages. -/
def splitTemplate : Catalog where
  contexts := [{ name := "Main", messages := [{ source := "Open", status := .unfinished }] }]

theorem sync_counts_split :
    splitTemplate.IsDistinct ∧
      (sync splitCatalog splitTemplate {}).1.messageCount +
          (sync splitCatalog splitTemplate {}).2.dropped +
          shadowedCount splitCatalog splitTemplate =
        splitCatalog.messageCount + (sync splitCatalog splitTemplate {}).2.added +
          (sync splitCatalog splitTemplate {}).2.sameText ∧
      ((sync splitCatalog splitTemplate {}).1.messageCount +
            (sync splitCatalog splitTemplate {}).2.dropped =
          splitCatalog.messageCount + (sync splitCatalog splitTemplate {}).2.added +
            (sync splitCatalog splitTemplate {}).2.sameText ↔
        Unshadowed splitCatalog splitTemplate) :=
  ⟨by decide, sync_counts splitCatalog splitTemplate {} (by decide)⟩

/-- The catalog is read from a file, and the message of its second context is lost in a merge that
drops retired messages and counts none as dropped. -/
theorem split_loses_message :
    Catalog.parse splitCatalog.print = .ok splitCatalog ∧ splitTemplate.IsDistinct ∧
      (sync splitCatalog splitTemplate { dropObsolete := true }).1.messageCount +
          (sync splitCatalog splitTemplate { dropObsolete := true }).2.dropped ≠
        splitCatalog.messageCount +
          (sync splitCatalog splitTemplate { dropObsolete := true }).2.added +
          (sync splitCatalog splitTemplate { dropObsolete := true }).2.sameText := by
  refine ⟨?_, by decide, by decide⟩
  have hs : splitCatalog.IsShaped := by decide
  rw [Catalog.parse_print, Catalog.shaped_eq_self_iff.2 hs]

end Sync

end MessageCatalog.Merge
