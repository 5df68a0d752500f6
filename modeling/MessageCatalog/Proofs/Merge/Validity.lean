import MessageCatalog.Proofs.Check.Errors
import MessageCatalog.Proofs.Merge.Structure

/-!
# Errors in a merged catalog

A merge of catalogs without errors gives every context a name and distinct keys, every message a
source, and every target its shape (`isWellFormed_sync`). Only a finished message can be an error: a
vanished message, whose text is not checked, is finished again when the template brings it back,
even if it lacks text (`RevivesComplete`).
-/

namespace MessageCatalog.Merge

open Check

section Errors
variable {existing template : Catalog} {options : Options} {name : String}

/-! ## The contexts and entries of a merge -/

theorem forall_contexts_sync {P : Context → Prop}
    (hs : ∀ t ∈ template.contexts,
      P (settleContext existing template options (formCountOf existing) t).1)
    (hl : ∀ old ∈ existing.contexts, template.context? old.name = none →
      P (retireContext template options old).1) :
    ∀ c ∈ (sync existing template options).1.contexts, P c := by
  intro c hc
  rw [sync_eq] at hc
  rcases List.mem_append.1 hc with hc | hc
  · obtain ⟨t, ht, rfl⟩ := List.mem_map.1 hc
    exact hs t ht
  · simp only [goneContexts, unknownContexts, List.mem_filter, List.mem_map,
      Option.isNone_iff_eq_none] at hc
    obtain ⟨⟨old, ⟨ho, hn⟩, rfl⟩, -⟩ := hc
    exact hl old ho hn

/-- An entry of the result is one of the template, settled, or an existing one that stays,
retired. -/
theorem forall_entries_sync {P : String × Message → Prop}
    (hs : ∀ e ∈ template.entries,
      P (e.1, (settleIn existing options (formCountOf existing) e.1 e.2).1))
    (hr : ∀ e ∈ existing.entries, stays template options e.1 e.2 = true → P (e.1, e.2.retired)) :
    ∀ e ∈ (sync existing template options).1.entries, P e := by
  intro e he
  obtain ⟨c, hc, m, hm, rfl⟩ := Catalog.exists_of_mem_entries he
  refine forall_contexts_sync (P := fun c => ∀ m ∈ c.messages, P (c.name, m)) ?_ ?_ c hc m hm
  · intro t ht m hm
    rw [settleContext_eq] at hm ⊢
    rcases List.mem_append.1 hm with hm | hm
    · obtain ⟨m, hm', rfl⟩ := List.mem_map.1 hm
      exact hs _ (Catalog.mem_entries ht hm')
    · obtain ⟨old, ho, hs, rfl⟩ := mem_retire.1 hm
      exact hr _ (Catalog.mem_entries_of_messagesOf ho) hs
  · intro old ho _ m hm
    obtain ⟨m, hm', hs, rfl⟩ := mem_retire.1 hm
    exact hr _ (Catalog.mem_entries ho hm') hs

/-- Every message of the template stands settled in the result. -/
theorem mem_entries_sync {e : String × Message} (he : e ∈ template.entries) :
    (e.1, (settleIn existing options (formCountOf existing) e.1 e.2).1) ∈
      (sync existing template options).1.entries := by
  obtain ⟨t, ht, m, hm, rfl⟩ := Catalog.exists_of_mem_entries he
  have hc : (settleContext existing template options (formCountOf existing) t).1 ∈
      (sync existing template options).1.contexts := by
    rw [sync_eq]
    exact List.mem_append_left _ (List.mem_map_of_mem ht)
  have hmessage : (settleIn existing options (formCountOf existing) t.name m).1 ∈
      (settleContext existing template options (formCountOf existing) t).1.messages := by
    rw [settleContext_eq]
    exact List.mem_append_left _ (List.mem_map_of_mem hm)
  have hentry := Catalog.mem_entries hc hmessage
  rwa [name_settleContext] at hentry

/-! ## Names and keys -/

theorem names_sync (he : IsValid existing) (ht : IsValid template) :
    ∀ c ∈ (sync existing template options).1.contexts,
      Text.isAllBlank c.name.toList = false := by
  apply forall_contexts_sync
  · intro t hm
    rw [name_settleContext]
    exact ht.names t hm
  · intro old hm _
    exact he.names old hm

/-- What is left of messages with distinct keys has distinct keys. -/
theorem nodup_keys_retire {live : List Key} {ms : List Message} (h : (ms.map (·.key)).Nodup) :
    ((retire template options name live ms).1.map (·.key)).Nodup := by
  rw [retire_fst, List.map_map]
  exact h.sublist (List.filter_sublist.map _)

theorem keys_sync (he : IsValid existing) (ht : IsValid template) :
    ∀ c ∈ (sync existing template options).1.contexts, (c.messages.map (·.key)).Nodup := by
  apply forall_contexts_sync
  · intro t hm
    rw [settleContext_eq, List.map_append, keys_settledMessages]
    have hkeys := Catalog.nodup_keys_messagesOf he.keys t.name
    refine List.nodup_append.2 ⟨ht.keys t hm, nodup_keys_retire hkeys, ?_⟩
    -- A key of the template is not left.
    rintro key hkey _ hleft rfl
    obtain ⟨m, hm', rfl⟩ := List.mem_map.1 hleft
    obtain ⟨old, -, hs, rfl⟩ := mem_retire.1 hm'
    exact inTemplate_eq_false_iff.1 (not_inTemplate_of_stays hs) t hm rfl hkey
  · intro old hm _
    exact nodup_keys_retire (he.keys old hm)

/-! ## Sources and shapes -/

theorem sources_sync (he : IsValid existing) (ht : IsValid template) :
    ∀ e ∈ (sync existing template options).1.entries, e.2.source ≠ "" := by
  apply forall_entries_sync
  · intro e hm
    have hs := settles_settleIn existing options (formCountOf existing) e.1 e.2
    have hsource := congrArg Message.source hs.same
    rw [hsource]
    exact ht.sources e hm
  · intro e hm _
    exact he.sources e hm

theorem suits_reshape (target : Target) (numerus : Bool) (formCount : Nat) :
    (reshape target numerus formCount).Suits numerus := by
  cases numerus <;> simp [reshape, Target.Suits]

theorem suits_emptyTarget (numerus : Bool) (formCount : Nat) :
    (emptyTarget numerus formCount).Suits numerus := by
  cases numerus <;> simp [emptyTarget, Target.Suits]

theorem suits_of_fits {target : Target} {numerus : Bool} (h : fits target numerus = true) :
    target.Suits numerus := by
  cases target <;> cases numerus <;> simp_all [fits, Target.Suits]

theorem isShaped_refresh {previous : Message} (h : previous.IsShaped) (t : Message)
    (formCount : Nat) : (refresh previous t formCount).IsShaped := by
  unfold Message.IsShaped
  by_cases hn : previous.numerus = t.numerus
  · rw [target_refresh hn, show (refresh previous t formCount).numerus = _ from hn.symm]
    exact h
  · rw [target_refresh_of_ne hn]
    exact suits_reshape _ _ _

theorem suits_of_reusable? {t : Message} {target : Target}
    (h : reusable? existing options t = some target) : target.Suits t.numerus := by
  unfold reusable? at h
  split at h
  · cases h
  · exact suits_of_fits (Option.mem_filter_iff.1 h).2

theorem Outcome.isShaped {formCount : Nat} {t : Message} {s : Message × Summary}
    (h : Outcome existing options formCount name t s) (he : existing.IsShaped) :
    s.1.IsShaped := by
  cases h with
  | kept hm _ => exact isShaped_refresh (he _ (Catalog.mem_entries_of_find? hm)) t formCount
  | revived hm _ => exact isShaped_refresh (he _ (Catalog.mem_entries_of_find? hm)) t formCount
  | reused _ hr => exact suits_of_reusable? hr
  | added _ _ => exact suits_emptyTarget t.numerus formCount

/-- A merge keeps the targets of a catalog in shape, whatever the template holds. -/
theorem isShaped_sync (he : existing.IsShaped) : (sync existing template options).1.IsShaped := by
  apply forall_entries_sync
  · intro e _
    exact (outcome_settleIn existing options _ e.1 e.2).isShaped he
  · intro e hm _
    exact he e hm

/-! ## Texts -/

/-- The vanished messages that a template brings back as they were have all their text. -/
def RevivesComplete (existing template : Catalog) : Prop :=
  ∀ e ∈ template.entries, ∀ m ∈ existing.find? e.1 e.2.key, m.status = .vanished →
    m.numerus = e.2.numerus → m.target.isComplete = true

instance (existing template : Catalog) : Decidable (RevivesComplete existing template) :=
  inferInstanceAs (Decidable (∀ e ∈ template.entries, ∀ m ∈ existing.find? e.1 e.2.key, _))

/-- A message that takes over as finished has the text of one that is or was finished. -/
theorem refresh_of_finished {m t : Message} {formCount : Nat}
    (h : (refresh m t formCount).status = .finished) :
    m.numerus = t.numerus ∧ (m.status = .finished ∨ m.status = .vanished) ∧
      (refresh m t formCount).target = m.target := by
  by_cases hn : m.numerus = t.numerus
  · rw [status_refresh hn] at h
    refine ⟨hn, ?_, target_refresh hn formCount⟩
    cases hs : m.status with
    | finished => exact .inl rfl
    | vanished => exact .inr rfl
    | _ => rw [hs] at h; cases h
  · rw [status_refresh_of_ne hn] at h
    cases h

/-- A message that has been settled as finished has taken over from one that is or was finished. -/
theorem Outcome.of_finished {formCount : Nat} {t : Message} {s : Message × Summary}
    (h : Outcome existing options formCount name t s) (hs : s.1.status = .finished) :
    ∃ m, existing.find? name t.key = some m ∧ m.numerus = t.numerus ∧
      (m.status = .finished ∨ m.status = .vanished) ∧ s.1.target = m.target := by
  cases h with
  | kept hm _ => exact ⟨_, hm, refresh_of_finished hs⟩
  | revived hm _ => exact ⟨_, hm, refresh_of_finished hs⟩
  | reused _ _ => cases hs
  | added _ _ => cases hs

/-- A vanished message that is brought back as it was is finished. -/
theorem settleIn_of_vanished {t m : Message} (hm : existing.find? name t.key = some m)
    (hs : m.status = .vanished) (hn : m.numerus = t.numerus) (formCount : Nat) :
    (settleIn existing options formCount name t).1.status = .finished ∧
      (settleIn existing options formCount name t).1.target = m.target := by
  rw [settleIn, hm]
  refine ⟨(status_refresh hn formCount).trans ?_, target_refresh hn formCount⟩
  rw [hs]
  rfl

/-- Finished messages have all their text exactly when those have that are finished again. -/
theorem texts_sync_iff (he : IsValid existing) :
    (∀ e ∈ (sync existing template options).1.entries,
        e.2.status = .finished → e.2.target.isComplete = true) ↔
      RevivesComplete existing template := by
  constructor
  · intro h e ht m hm hs hn
    obtain ⟨hfinished, htarget⟩ := settleIn_of_vanished hm hs hn (formCountOf existing)
    rw [← htarget]
    exact h _ (mem_entries_sync ht) hfinished
  · intro h
    apply forall_entries_sync
    · intro e ht hfinished
      have ho := outcome_settleIn existing options (formCountOf existing) e.1 e.2
      obtain ⟨m, hm, hn, hs | hs, htarget⟩ := ho.of_finished hfinished
      · rw [htarget]
        exact he.texts _ (Catalog.mem_entries_of_find? hm) hs
      · rw [htarget]
        exact h e ht m hm hs hn
    · intro e _ _ hfinished
      rcases retiredStatus_eq e.2.status with hs | hs
      · cases hs.symm.trans hfinished
      · cases hs.symm.trans hfinished

theorem isWellFormed_sync (he : IsValid existing) (ht : IsValid template) :
    IsWellFormed (sync existing template options).1 where
  names := names_sync he ht
  keys := keys_sync he ht
  sources := sources_sync he ht
  shapes := isShaped_sync he.shapes

end Errors

/-- When neither catalog has an error, the result of a merge has none but finished messages that
lack text, and it has none at all exactly when every vanished message that the template brings back
as it was has all its text. -/
theorem sync_errors (existing template : Catalog) (options : Options)
    (he : HasNoError existing) (ht : HasNoError template) :
    (∀ i ∈ validate (sync existing template options).1,
        i.severity = .error → i.kind = .missingText) ∧
      (HasNoError (sync existing template options).1 ↔ RevivesComplete existing template) := by
  rw [hasNoError_iff] at he ht
  have hw : IsWellFormed (sync existing template options).1 := isWellFormed_sync he ht
  refine ⟨isWellFormed_iff.2 hw, ?_⟩
  rw [hasNoError_iff, ← texts_sync_iff he]
  exact ⟨IsValid.texts, fun htexts => { hw with texts := htexts }⟩

/-- A vanished message with a text is brought back. -/
theorem sync_errors_sample :
    HasNoError sampleCatalog ∧ RevivesComplete sampleCatalog sampleCatalog ∧
      HasNoError (sync sampleCatalog sampleCatalog {}).1 := by
  have hv : HasNoError sampleCatalog := hasNoError_iff.2 (by decide)
  have hr : RevivesComplete sampleCatalog sampleCatalog := by decide
  exact ⟨hv, hr, (sync_errors sampleCatalog sampleCatalog {} hv hv).2.2 hr⟩

/-- A catalog with a message that has vanished without a text. -/
def silentCatalog : Catalog where
  language := some "de"
  contexts := [{ name := "Main", messages := [{ source := "Open", status := .vanished }] }]

/-- The message is finished when it is brought back, and its text is missing then. -/
theorem silent_breaks_validity :
    HasNoError silentCatalog ∧ HasNoError sampleTemplate ∧
      ¬HasNoError (sync silentCatalog sampleTemplate {}).1 := by
  simp only [hasNoError_iff]
  decide

end MessageCatalog.Merge
