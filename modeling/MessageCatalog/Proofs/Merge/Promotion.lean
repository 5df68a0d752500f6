import MessageCatalog.Proofs.Merge.Structure
import MessageCatalog.Proofs.Merge.Validity

/-!
# No text becomes finished in a merge

A finished message of a merged catalog has the text of a message that stood under its key, depended
on a count as it does, and was finished or vanished. The messages in use are those of the template
(`entries_inUse_sync`), and whatever status they had there, one that is new, that has changed its
shape or whose text was not ready is unfinished (`StaysOpen`).
-/

namespace MessageCatalog.Merge

section InUse
variable {existing template : Catalog} {options : Options} {name : String}

/-! ## The messages in use -/

/-- Of a context of the template the settled messages are in use, and no others. -/
theorem messages_inUse_settleContext (t : Context) :
    ((settleContext existing template options (formCountOf existing) t).1.messages.map fun m =>
        (t.name, m)).filter (·.2.isActive) =
      t.messages.map fun m =>
        (t.name, (settleIn existing options (formCountOf existing) t.name m).1) := by
  have hretired : ∀ m ∈ (retireIn existing template options t.name).1,
      IsRetired existing template options t.name m :=
    fun m hm => isRetired_of_mem_retire (fun old => Catalog.mem_entries_of_messagesOf) hm
  have hsettled : ∀ e ∈ (settledMessages existing options (formCountOf existing) t).map fun m =>
      (t.name, m), e.2.isActive = true := by
    intro e he
    simp only [settledMessages, List.mem_map] at he
    obtain ⟨_, ⟨m, -, rfl⟩, rfl⟩ := he
    exact (settles_settleIn _ _ _ _ m).active
  rw [settleContext_eq, List.map_append, List.filter_append, filter_entries_eq_nil hretired,
    List.append_nil, List.filter_eq_self.2 hsettled, settledMessages, List.map_map]
  rfl

/-- The messages in use are those of the template, settled. -/
theorem entries_inUse_sync :
    (sync existing template options).1.entries.filter (·.2.isActive) =
      template.entries.map fun t =>
        (t.1, (settleIn existing options (formCountOf existing) t.1 t.2).1) := by
  -- What is left of the other contexts is retired.
  rw [Catalog.entries, sync_eq, List.flatMap_append, List.filter_append,
    filter_entries_of_isLeft isLeft_goneContexts, List.append_nil, List.flatMap_map,
    List.filter_flatMap, Catalog.entries, List.map_flatMap]
  refine List.flatMap_congr fun t _ => ?_
  rw [name_settleContext, messages_inUse_settleContext, List.map_map]
  rfl

/-! ## Their statuses -/

/-- A message in use, with that of the template. It is unfinished when it is new, when its shape has
changed, and when the text it takes over was not ready. -/
structure StaysOpen (existing : Catalog) (e t : String × Message) : Prop where
  settles : SettlesEntry e t
  new : existing.find? t.1 t.2.key = none → e.2.status = .unfinished
  reshaped : ∀ m, existing.find? t.1 t.2.key = some m → m.numerus ≠ t.2.numerus →
    e.2.status = .unfinished
  unready : ∀ m, existing.find? t.1 t.2.key = some m →
    m.status = .unfinished ∨ m.status = .obsolete → e.2.status = .unfinished

theorem status_refresh_of_unready {m t : Message}
    (h : m.status = .unfinished ∨ m.status = .obsolete) (formCount : Nat) :
    (refresh m t formCount).status = .unfinished := by
  by_cases hn : m.numerus = t.numerus
  · rw [status_refresh hn]
    rcases h with h | h <;> rw [h] <;> rfl
  · exact status_refresh_of_ne hn formCount

theorem staysOpen_refresh {m t : Message} (hm : existing.find? name t.key = some m)
    (formCount : Nat) : StaysOpen existing (name, refresh m t formCount) (name, t) where
  settles := ⟨rfl, settles_refresh m t formCount⟩
  new hn := by
    rw [hm] at hn
    cases hn
  reshaped m' hm' hne := by
    obtain rfl := Option.some.inj (hm.symm.trans hm')
    exact status_refresh_of_ne hne formCount
  unready m' hm' hs := by
    obtain rfl := Option.some.inj (hm.symm.trans hm')
    exact status_refresh_of_unready hs formCount

theorem staysOpen_fresh (existing : Catalog) (name : String) (t : Message) (target : Target) :
    StaysOpen existing (name, fresh t target) (name, t) where
  settles := ⟨rfl, settles_fresh t target⟩
  new _ := rfl
  reshaped _ _ _ := rfl
  unready _ _ _ := rfl

theorem Outcome.staysOpen {formCount : Nat} {t : Message} {s : Message × Summary}
    (h : Outcome existing options formCount name t s) :
    StaysOpen existing (name, s.1) (name, t) := by
  cases h with
  | kept hm _ => exact staysOpen_refresh hm formCount
  | revived hm _ => exact staysOpen_refresh hm formCount
  | reused _ _ => exact staysOpen_fresh ..
  | added _ _ => exact staysOpen_fresh ..

end InUse

/-- A merge finishes no text: a finished message of the result has the text of a message with its
key, in a context with the same name, that depended on a count as it does and was finished or
vanished. The messages in use are those of the template, and those that are new, that have changed
their shape or whose text was not ready are unfinished. -/
theorem sync_finishes_nothing (existing template : Catalog) (options : Options) :
    let merged := (sync existing template options).1
    (∀ e ∈ merged.entries, e.2.status = .finished →
        ∃ m, (e.1, m) ∈ existing.entries ∧ m.key = e.2.key ∧
          (m.status = .finished ∨ m.status = .vanished) ∧
          e.2.target = m.target ∧ e.2.numerus = m.numerus) ∧
      List.Forall₂ (StaysOpen existing) (merged.entries.filter (·.2.isActive))
        template.entries := by
  intro merged
  constructor
  · apply forall_entries_sync
    · intro t _ hfinished
      have hsettles := settles_settleIn existing options (formCountOf existing) t.1 t.2
      have ho := outcome_settleIn existing options (formCountOf existing) t.1 t.2
      obtain ⟨m, hm, hn, hs, htarget⟩ := ho.of_finished hfinished
      refine ⟨m, Catalog.mem_entries_of_find? hm, ?_, hs, htarget, ?_⟩
      · exact (Catalog.key_of_find? hm).trans hsettles.key.symm
      · exact hsettles.numerus.trans hn.symm
    · intro old _ _ hfinished
      rcases retiredStatus_eq old.2.status with hs | hs
      · cases hs.symm.trans hfinished
      · cases hs.symm.trans hfinished
  · rw [entries_inUse_sync]
    exact List.forall₂_map_left_iff.2 (List.forall₂_same.2 fun t _ =>
      (outcome_settleIn existing options _ t.1 t.2).staysOpen)

end MessageCatalog.Merge
