import MessageCatalog.Proofs.Merge.Layout

/-!
# Merging twice

When the names and the keys of a template are distinct, its settled messages are settled as
themselves, what is left of an existing context is left again, and so the result of a merge does not
change when it is merged with the same template once more.
-/

namespace MessageCatalog.Merge

section Again
variable {existing template : Catalog} {options : Options}

/-! ## Contexts of the template -/

/-- A settled message is what the result has for its message of the template. -/
theorem find?_sync_settled (h : template.IsDistinct) {context : Context}
    (hc : context ∈ template.contexts) {t : Message} (ht : t ∈ context.messages) :
    (sync existing template options).1.find? context.name t.key =
      some (settleIn existing options (formCountOf existing) context.name t).1 := by
  have hf : context.find? t.key = some t := find?_key Message.key (h.keys context hc) ht
  rw [Catalog.find?_eq, messagesOf_sync (h.context? hc), List.find?_append, find?_settledMessages,
    hf]
  rfl

theorem settleIn_sync (h : template.IsDistinct) {context : Context}
    (hc : context ∈ template.contexts) {t : Message} (ht : t ∈ context.messages) (formCount : Nat) :
    settleIn (sync existing template options).1 options formCount context.name t =
      ((settleIn existing options (formCountOf existing) context.name t).1, { kept := 1 }) := by
  have hs : Settles (settleIn existing options (formCountOf existing) context.name t).1 t :=
    settles_settleIn existing options _ context.name t
  rw [settleIn, find?_sync_settled h hc ht]
  exact hs.settle _ _ _

theorem retireIn_sync (h : template.IsDistinct) {context : Context}
    (hc : context ∈ template.contexts) :
    retireIn (sync existing template options).1 template options context.name =
      ((retireIn existing template options context.name).1, {}) := by
  have hk := keys_settledMessages existing options (formCountOf existing) context
  rw [retireIn, messagesOf_sync (h.context? hc)]
  apply retire_again
  · intro m hm
    refine inTemplate_iff.2 ⟨context, hc, rfl, ?_⟩
    rw [← hk]
    exact List.mem_map_of_mem hm
  · rw [hk]
    exact h.keys context hc

/-- A context of the template is settled as it has been settled before. -/
theorem settleContext_sync (h : template.IsDistinct) {context : Context}
    (hc : context ∈ template.contexts) (formCount : Nat) :
    settleContext (sync existing template options).1 template options formCount context =
      ((settleContext existing template options (formCountOf existing) context).1,
        { kept := context.messages.length }) := by
  have hm : ∀ t ∈ context.messages,
      settleIn (sync existing template options).1 options formCount context.name t =
        ((settleIn existing options (formCountOf existing) context.name t).1, { kept := 1 }) :=
    fun t ht => settleIn_sync h hc ht formCount
  have hs : settledMessages (sync existing template options).1 options formCount context =
      settledMessages existing options (formCountOf existing) context :=
    List.map_congr_left fun t ht => by rw [hm t ht]
  have hk : (context.messages.map fun t =>
      (settleIn (sync existing template options).1 options formCount context.name t).2) =
        context.messages.map fun _ => { kept := 1 } :=
    List.map_congr_left fun t ht => by rw [hm t ht]
  rw [settleContext_eq, settleContext_eq, context?_sync (h.context? hc), settleContext_eq,
    retireIn_sync h hc, hs, hk, sum_kept, total_eq_length fun _ _ => rfl, Summary.add_zero]
  simp only [Option.bind_some, ← Option.or_assoc, Option.or_self]

/-! ## Other contexts -/

theorem retireContext_again (c : Context) :
    retireContext template options (retireContext template options c).1 =
      ((retireContext template options c).1, {}) := by
  have h : retire template options c.name []
      ([] ++ (retire template options c.name [] c.messages).1) =
        ((retire template options c.name [] c.messages).1, {}) :=
    retire_again (by simp) (by simp) [] c.messages
  rw [List.nil_append] at h
  rw [retireContext_eq, retireContext_eq, h]

theorem mem_goneContexts {c : Context} (h : c ∈ goneContexts existing template options) :
    (template.context? c.name).isNone = true ∧ c.messages.isEmpty = false ∧
      retireContext template options c = (c, {}) := by
  simp only [goneContexts, unknownContexts, List.mem_filter, List.mem_map, Bool.not_eq_true'] at h
  obtain ⟨⟨old, ⟨-, hn⟩, rfl⟩, he⟩ := h
  exact ⟨hn, he, retireContext_again old⟩

/-- The contexts of the result that the template does not have are those that were left. -/
theorem unknownContexts_sync :
    unknownContexts (sync existing template options).1 template =
      goneContexts existing template options := by
  -- A settled context has a name of the template, and one that is left has not.
  have hs : ((template.contexts.map fun c =>
      (settleContext existing template options (formCountOf existing) c).1).filter fun c =>
        (template.context? c.name).isNone) = [] := by
    rw [List.filter_eq_nil_iff]
    intro c hc
    obtain ⟨t, ht, rfl⟩ := List.mem_map.1 hc
    rw [name_settleContext]
    intro hn
    have hne := List.find?_eq_none.1 (Option.isNone_iff_eq_none.1 hn) t ht
    simp at hne
  have hg : (goneContexts existing template options).filter (fun c =>
      (template.context? c.name).isNone) = goneContexts existing template options :=
    List.filter_eq_self.2 fun c hc => (mem_goneContexts hc).1
  rw [unknownContexts, sync_eq, List.filter_append, hs, hg, List.nil_append]

theorem goneContexts_sync :
    goneContexts (sync existing template options).1 template options =
      goneContexts existing template options := by
  have hm : (goneContexts existing template options).map (fun c =>
      (retireContext template options c).1) = goneContexts existing template options := by
    conv => rhs; rw [← List.map_id (goneContexts existing template options)]
    apply List.map_congr_left
    intro c hc
    rw [(mem_goneContexts hc).2.2]
    rfl
  rw [goneContexts, unknownContexts_sync, hm]
  apply List.filter_eq_self.2
  intro c hc
  rw [(mem_goneContexts hc).2.1, Bool.not_false]

/-! ## Catalogs -/

/-- The result of a merge is merged with its template as itself, and every message is kept. -/
theorem sync_sync (h : template.IsDistinct) :
    sync (sync existing template options).1 template options =
      ((sync existing template options).1, { kept := template.messageCount }) := by
  have hs : ∀ c ∈ template.contexts,
      settleContext (sync existing template options).1 template options
          (formCountOf (sync existing template options).1) c =
        ((settleContext existing template options (formCountOf existing) c).1,
          { kept := c.messages.length }) :=
    fun c hc => settleContext_sync h hc _
  have hc := List.map_congr_left fun c hc => congrArg Prod.fst (hs c hc)
  have hk := List.map_congr_left fun c hc => congrArg Prod.snd (hs c hc)
  have hg : (goneContexts existing template options).map (fun c =>
      (retireContext template options c).2) =
        (goneContexts existing template options).map fun _ => { kept := 0 } :=
    List.map_congr_left fun c hc => by rw [(mem_goneContexts hc).2.2]
  have hsum : Summary.sum ((template.contexts.map fun c => { kept := c.messages.length }) ++
      (goneContexts existing template options).map fun _ => { kept := 0 }) =
        { kept := template.messageCount } := by
    rw [sum_append, sum_kept, sum_kept, total_eq_zero fun _ _ => rfl, Summary.add_zero]
    rfl
  rw [sync_eq, hc, hk, goneContexts_sync, unknownContexts_sync, hg, hsum, sync_eq]
  simp only [Option.or_assoc, Option.or_self]

/-- To merge the result of a merge with the same template changes nothing: the result stays as it
is, every message of the template is kept, and nothing else is counted. -/
theorem sync_idempotent (existing template : Catalog) (options : Options)
    (h : template.IsDistinct) :
    (sync (sync existing template options).1 template options).1 =
        (sync existing template options).1 ∧
      (sync (sync existing template options).1 template options).2.isNoop = true ∧
      (sync (sync existing template options).1 template options).2.kept =
        template.messageCount := by
  rw [sync_sync h]
  exact ⟨rfl, rfl, rfl⟩

theorem sync_idempotent_sample :
    sampleTemplate.IsDistinct ∧
      (sync (sync sampleCatalog sampleTemplate {}).1 sampleTemplate {}).1 =
          (sync sampleCatalog sampleTemplate {}).1 ∧
        (sync (sync sampleCatalog sampleTemplate {}).1 sampleTemplate {}).2.isNoop = true ∧
        (sync (sync sampleCatalog sampleTemplate {}).1 sampleTemplate {}).2.kept =
          sampleTemplate.messageCount :=
  ⟨by decide, sync_idempotent sampleCatalog sampleTemplate {} (by decide)⟩

end Again

end MessageCatalog.Merge
