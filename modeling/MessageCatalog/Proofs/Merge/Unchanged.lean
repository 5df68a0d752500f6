import MessageCatalog.Proofs.Check.Places
import MessageCatalog.Proofs.Merge.History
import MessageCatalog.Proofs.Merge.Validity

/-!
# When a merge changes nothing

A merge tells that nothing has happened when every message of the template was in use before and
every other message had been retired before (`isNoop_sync_iff`). Compared with the existing catalog
the result is unchanged exactly when, besides, no message has changed with its shape
(`isEmpty_sync_iff`): a message in use that takes another shape counts as kept, whatever becomes of
its text and its status.
-/

namespace MessageCatalog.Merge

open Compare

section Unchanged
variable {existing template : Catalog} {options : Options} {name : String}

/-! ## The entries of a merge -/

/-- The entries of the result are those of the template, settled, and the existing ones that stay,
retired. -/
theorem forall_entries_sync_iff (h : existing.IsDistinct) {P : String × Message → Prop} :
    (∀ e ∈ (sync existing template options).1.entries, P e) ↔
      (∀ t ∈ template.entries,
        P (t.1, (settleIn existing options (formCountOf existing) t.1 t.2).1)) ∧
      ∀ b ∈ existing.entries, stays template options b.1 b.2 = true → P (b.1, b.2.retired) := by
  constructor
  · intro hp
    refine ⟨fun t ht => hp _ (mem_entries_sync ht), fun b hb hs => hp _ ?_⟩
    exact Catalog.mem_entries_of_find? (find?_sync_retired (h.find? hb) hs)
  · rintro ⟨ht, hb⟩
    exact forall_entries_sync ht hb

/-- An existing place stands in the result when the template has it or its message stays. -/
theorem placeOf_mem_places_sync_iff (h : existing.IsDistinct) {b : String × Message}
    (hb : b ∈ existing.entries) :
    placeOf b ∈ places (sync existing template options).1 ↔
      inTemplate template b.1 b.2.key = true ∨ stays template options b.1 b.2 = true := by
  constructor
  · intro hplace
    obtain ⟨e, he, hp⟩ := List.mem_map.1 hplace
    revert e
    refine (forall_entries_sync_iff h).2 ⟨fun t ht hp => .inl ?_, fun b' hb' hs hp => .inr ?_⟩
    · obtain ⟨hn, hk⟩ := Prod.mk.inj hp
      have hkey := (settles_settleIn existing options (formCountOf existing) t.1 t.2).key
      rw [inTemplate, List.any_eq_true]
      exact ⟨t, ht, decide_eq_true ⟨hn, hkey.symm.trans hk⟩⟩
    · -- No two existing messages have one place, so the message that stays is this one.
      obtain ⟨hn, hk⟩ := Prod.mk.inj hp
      have hfound := h.find? hb'
      rw [show b'.2.key = b.2.key from hk, show b'.1 = b.1 from hn, h.find? hb] at hfound
      obtain rfl : b' = b := Prod.ext hn (Option.some.inj hfound).symm
      exact hs
  · rintro (hi | hs)
    · rw [inTemplate, List.any_eq_true] at hi
      obtain ⟨t, ht, hplace⟩ := hi
      obtain ⟨hn, hk⟩ := of_decide_eq_true hplace
      have hkey := (settles_settleIn existing options (formCountOf existing) t.1 t.2).key
      exact List.mem_map.2 ⟨_, mem_entries_sync ht, Prod.ext hn (hkey.trans hk)⟩
    · have hfound := Catalog.mem_entries_of_find? (find?_sync_retired (h.find? hb) hs)
      exact List.mem_map.2 ⟨_, hfound, rfl⟩

/-! ## What is counted -/

/-- A message of the template was in use before. -/
def WasInUse (existing : Catalog) (name : String) (t : Message) : Prop :=
  ∃ m, existing.find? name t.key = some m ∧ m.isActive = true

/-- An existing message is one of the template, or it had been retired and stays. -/
def Rests (template : Catalog) (options : Options) (name : String) (m : Message) : Prop :=
  inTemplate template name m.key = true ∨
    stays template options name m = true ∧ m.isActive = false

theorem not_wasInUse {t : Message} (hn : existing.find? name t.key = none) :
    ¬WasInUse existing name t := by
  rintro ⟨m, hm, -⟩
  rw [hn] at hm
  cases hm

/-- Settling a message counts nothing else when it is kept. -/
theorem Outcome.isNoop_iff {formCount : Nat} {t : Message} {s : Message × Summary}
    (h : Outcome existing options formCount name t s) :
    s.2.isNoop = true ↔ WasInUse existing name t := by
  cases h with
  | kept hm ha => exact iff_of_true rfl ⟨_, hm, ha⟩
  | revived hm ha =>
    refine iff_of_false Bool.false_ne_true ?_
    rintro ⟨m', hm', ha'⟩
    obtain rfl := Option.some.inj (hm.symm.trans hm')
    rw [ha] at ha'
    cases ha'
  | reused hn _ => exact iff_of_false Bool.false_ne_true (not_wasInUse hn)
  | added hn _ => exact iff_of_false Bool.false_ne_true (not_wasInUse hn)

theorem isNoop_retiredSummary_iff (s : Status) :
    (retiredSummary s).isNoop = true ↔ s.isActive = false := by
  cases s <;> decide

/-- Retiring messages with distinct keys counts nothing when all of them rest. -/
theorem isNoop_retire_iff {live : List Key} {ms : List Message} (hd : (ms.map (·.key)).Nodup)
    (hl : ∀ m ∈ ms, m.key ∉ live) :
    (retire template options name live ms).2.isNoop = true ↔
      ∀ m ∈ ms, Rests template options name m := by
  -- The live keys are those of the messages in front, so none of the others has one of them.
  induction ms generalizing live with
  | nil => exact iff_of_true rfl fun _ h => absurd h List.not_mem_nil
  | cons m ms ih =>
    obtain ⟨hm, hd⟩ := List.nodup_cons.1 hd
    have hlater : ∀ a ∈ ms, a.key ∉ live := fun a ha => hl a (List.mem_cons_of_mem _ ha)
    rw [List.forall_mem_cons]
    cases hi : inTemplate template name m.key with
    | true =>
      have hfirst : live.contains m.key = false := by simpa using hl m List.mem_cons_self
      have hlive : ∀ a ∈ ms, a.key ∉ m.key :: live := by
        intro a ha hkey
        rcases List.mem_cons.1 hkey with he | hkey
        · exact hm (List.mem_map.2 ⟨a, ha, he⟩)
        · exact hlater a ha hkey
      rw [retire_cons_live hi, hfirst]
      exact (ih hd hlive).trans (and_iff_right (.inl hi)).symm
    | false =>
      cases hs : stays template options name m with
      | true =>
        have hrests : Rests template options name m ↔ m.isActive = false := by
          simp only [Rests, hi, hs, Bool.false_eq_true, false_or, true_and]
        rw [retire_cons_stays hs, isNoop_add, isNoop_retiredSummary_iff, ih hd hlater, hrests]
        rfl
      | false =>
        have hrests : ¬Rests template options name m := by
          simp only [Rests, hi, hs, Bool.false_eq_true, false_or, false_and, not_false_eq_true]
        rw [retire_cons_dropped hi hs, isNoop_add]
        exact iff_of_false (fun h => Bool.false_ne_true h.1) fun h => hrests h.1

/-- A context of the template counts nothing when its messages were in use and all others of the
existing context with its name rest. -/
theorem isNoop_settleContext_iff (h : existing.IsDistinct) (formCount : Nat) (t : Context) :
    (settleContext existing template options formCount t).2.isNoop = true ↔
      (∀ m ∈ t.messages, WasInUse existing t.name m) ∧
        ∀ m ∈ existing.messagesOf t.name, Rests template options t.name m := by
  have hcounted : ∀ m, (settleIn existing options formCount t.name m).2.isNoop = true ↔
      WasInUse existing t.name m :=
    fun m => (outcome_settleIn existing options formCount t.name m).isNoop_iff
  rw [settleContext_eq, isNoop_add, isNoop_sum, List.forall_mem_map, retireIn,
    isNoop_retire_iff (Catalog.nodup_keys_messagesOf h.keys t.name) (by simp)]
  simp only [hcounted]

/-- A context that the template does not have counts nothing when all its messages rest. -/
theorem isNoop_retireContext_iff (h : existing.IsDistinct) {c : Context}
    (hc : c ∈ existing.contexts) :
    (retireContext template options c).2.isNoop = true ↔
      ∀ m ∈ c.messages, Rests template options c.name m :=
  isNoop_retire_iff (h.keys c hc) (by simp)

/-- A merge of a distinct catalog tells that nothing has happened when every message of the template
was in use and every other one rests. -/
theorem isNoop_sync_iff (h : existing.IsDistinct) :
    (sync existing template options).2.isNoop = true ↔
      (∀ t ∈ template.entries, WasInUse existing t.1 t.2) ∧
        ∀ b ∈ existing.entries, Rests template options b.1 b.2 := by
  rw [sync_eq, isNoop_sum]
  constructor
  · intro hnoop
    have ht : ∀ t ∈ template.contexts, _ := fun t ht =>
      (isNoop_settleContext_iff h _ t).1
        (hnoop _ (List.mem_append_left _ (List.mem_map_of_mem ht)))
    refine ⟨fun e he => ?_, fun e he => ?_⟩
    · obtain ⟨t, hmem, m, hm, rfl⟩ := Catalog.exists_of_mem_entries he
      exact (ht t hmem).1 m hm
    · obtain ⟨c, hc, m, hm, rfl⟩ := Catalog.exists_of_mem_entries he
      cases hname : template.context? c.name with
      | some t =>
        -- The context is the first one with the name of a context of the template.
        have hmessages : existing.messagesOf c.name = c.messages := by
          rw [Catalog.messagesOf, h.context? hc]
          rfl
        have hrests := (ht t (List.mem_of_find?_eq_some hname)).2
        rw [Catalog.name_of_context? hname, hmessages] at hrests
        exact hrests m hm
      | none =>
        have hu : c ∈ unknownContexts existing template :=
          List.mem_filter.2 ⟨hc, by rw [hname]; rfl⟩
        exact (isNoop_retireContext_iff h hc).1
          (hnoop _ (List.mem_append_right _ (List.mem_map_of_mem hu))) m hm
  · rintro ⟨ht, hb⟩ s hs
    rcases List.mem_append.1 hs with hs | hs
    · obtain ⟨t, hmem, rfl⟩ := List.mem_map.1 hs
      exact (isNoop_settleContext_iff h _ t).2 ⟨fun m hm => ht _ (Catalog.mem_entries hmem hm),
        fun m hm => hb _ (Catalog.mem_entries_of_messagesOf hm)⟩
    · obtain ⟨c, hu, rfl⟩ := List.mem_map.1 hs
      have hc : c ∈ existing.contexts := (List.mem_filter.1 hu).1
      exact (isNoop_retireContext_iff h hc).2 fun m hm => hb _ (Catalog.mem_entries hc hm)

/-! ## What is compared -/

/-- Where the template changes the shape of a message, the message is unfinished already and its
text is the same in the new shape. -/
def ReshapesNothing (existing template : Catalog) : Prop :=
  ∀ t ∈ template.entries, ∀ m ∈ existing.find? t.1 t.2.key, m.numerus ≠ t.2.numerus →
    m.status = .unfinished ∧ reshape m.target t.2.numerus (formCountOf existing) = m.target

instance (existing template : Catalog) : Decidable (ReshapesNothing existing template) :=
  inferInstanceAs (Decidable (∀ t ∈ template.entries, ∀ m ∈ existing.find? t.1 t.2.key, _))

theorem eq_revivedStatus_iff {s : Status} : s = revivedStatus s ↔ s.isActive = true := by
  cases s <;> decide

theorem eq_retiredStatus_iff {s : Status} : s = retiredStatus s ↔ s.isActive = false := by
  cases s <;> decide

/-- A message that is taken over has the same text and status when it was in use and does not change
with its shape. -/
theorem refresh_unchanged_iff {m t : Message} {formCount : Nat} :
    m.target = (refresh m t formCount).target ∧ m.status = (refresh m t formCount).status ↔
      m.isActive = true ∧ (m.numerus ≠ t.numerus →
        m.status = .unfinished ∧ reshape m.target t.numerus formCount = m.target) := by
  rw [Message.isActive]
  by_cases hn : m.numerus = t.numerus
  · rw [target_refresh hn, status_refresh hn, eq_revivedStatus_iff]
    simp only [hn, ne_eq, not_true_eq_false, false_implies, true_and, and_true]
  · rw [target_refresh_of_ne hn, status_refresh_of_ne hn]
    simp only [ne_eq, hn, not_false_eq_true, true_implies]
    constructor
    · rintro ⟨htarget, hstatus⟩
      exact ⟨by rw [hstatus]; rfl, hstatus, htarget.symm⟩
    · rintro ⟨-, hstatus, htarget⟩
      exact ⟨htarget.symm, hstatus⟩

/-- The existing catalog has the text and the status of a settled message at its place when the
message was in use and does not change with its shape. -/
theorem settleIn_unchanged_iff (formCount : Nat) (t : Message) :
    (∃ m, existing.find? name t.key = some m ∧
        m.target = (settleIn existing options formCount name t).1.target ∧
        m.status = (settleIn existing options formCount name t).1.status) ↔
      WasInUse existing name t ∧ ∀ m ∈ existing.find? name t.key, m.numerus ≠ t.numerus →
        m.status = .unfinished ∧ reshape m.target t.numerus formCount = m.target := by
  unfold WasInUse settleIn
  cases hm : existing.find? name t.key with
  | none => simp
  | some m =>
    simp only [Option.some.injEq, exists_eq_left', Option.mem_def, forall_eq', settle]
    exact refresh_unchanged_iff

/-- An existing message that stays has the same status when it had been retired before. -/
theorem retired_unchanged_iff (h : existing.IsDistinct) {b : String × Message}
    (hb : b ∈ existing.entries) :
    (∃ m, existing.find? b.1 b.2.key = some m ∧
        m.target = b.2.retired.target ∧ m.status = b.2.retired.status) ↔
      b.2.isActive = false := by
  rw [h.find? hb, Message.isActive, ← eq_retiredStatus_iff]
  simp [Message.retired]

/-- The existing catalog has the text and the status of every message of the result, and the result
every place of the existing catalog, when nothing else is counted than what is kept and no message
changes with its shape. -/
theorem changes_sync_eq_nil_iff (h : existing.IsDistinct) :
    changes existing (sync existing template options).1 = [] ↔
      (sync existing template options).2.isNoop = true ∧ ReshapesNothing existing template := by
  have hsettled : ∀ t : String × Message,
      placeOf (t.1, (settleIn existing options (formCountOf existing) t.1 t.2).1) =
        (t.1, t.2.key) :=
    fun t => Prod.ext rfl (settles_settleIn existing options _ t.1 t.2).key
  rw [changes_eq_nil_iff, forall_entries_sync_iff h, isNoop_sync_iff h]
  simp only [hsettled, Index.getElem?_ofCatalog_of_isDistinct h, settleIn_unchanged_iff]
  constructor
  · rintro ⟨⟨ht, hstays⟩, hplaces⟩
    -- A place that the result has is one of the template, or its message stays as it was.
    refine ⟨⟨fun t hmem => (ht t hmem).1, fun b hb => ?_⟩, fun t hmem => (ht t hmem).2⟩
    rcases (placeOf_mem_places_sync_iff h hb).1 (hplaces b hb) with hi | hs
    · exact .inl hi
    · exact .inr ⟨hs, (retired_unchanged_iff h hb).1 (hstays b hb hs)⟩
  · rintro ⟨⟨ht, hrests⟩, hshapes⟩
    refine ⟨⟨fun t hmem => ⟨ht t hmem, hshapes t hmem⟩, fun b hb hs => ?_⟩, fun b hb => ?_⟩
    · rcases hrests b hb with hi | ⟨-, ha⟩
      · rw [not_inTemplate_of_stays hs] at hi
        cases hi
      · exact (retired_unchanged_iff h hb).2 ha
    · exact (placeOf_mem_places_sync_iff h hb).2 ((hrests b hb).imp_right And.left)

/-- Compared with a distinct catalog, a merge of it has changed nothing exactly when it tells so and
no message changes with its shape. So both are the same where no message changes its shape. -/
theorem isEmpty_sync_iff (h : existing.IsDistinct) (template : Catalog) (options : Options)
    (baseLabel newerLabel : String) :
    let merge := sync existing template options
    let comparison := Comparison.ofCatalogs existing merge.1 baseLabel newerLabel
    (comparison.isEmpty = true ↔
        merge.2.isNoop = true ∧ ReshapesNothing existing template) ∧
      ((∀ t ∈ template.entries, ∀ m ∈ existing.find? t.1 t.2.key, m.numerus = t.2.numerus) →
        (comparison.isEmpty = true ↔ merge.2.isNoop = true)) := by
  intro merge comparison
  have hexact : comparison.isEmpty = true ↔
      merge.2.isNoop = true ∧ ReshapesNothing existing template :=
    List.isEmpty_iff.trans (changes_sync_eq_nil_iff h)
  refine ⟨hexact, fun hshapes => hexact.trans (and_iff_left ?_)⟩
  intro t ht m hm hne
  exact absurd (hshapes t ht m hm) hne

end Unchanged

/-- A catalog with a message that does not depend on a count. -/
def plainCatalog : Catalog where
  language := some "de"
  contexts := [
    { name := "Files", messages := [
      { source := "%n file(s)", target := .single "%n Datei(en)" }] }]

/-- A template in which the message depends on a count. -/
def pluralTemplate : Catalog where
  contexts := [
    { name := "Files", messages := [
      { source := "%n file(s)", numerus := true, status := .unfinished }] }]

/-- A catalog that is merged with itself is unchanged. -/
theorem isEmpty_sync_plain :
    plainCatalog.IsDistinct ∧
      (let merge := sync plainCatalog plainCatalog {}
      let comparison := Comparison.ofCatalogs plainCatalog merge.1 "before" "after"
      (comparison.isEmpty = true ↔
          merge.2.isNoop = true ∧ ReshapesNothing plainCatalog plainCatalog) ∧
        ((∀ t ∈ plainCatalog.entries, ∀ m ∈ plainCatalog.find? t.1 t.2.key,
            m.numerus = t.2.numerus) →
          (comparison.isEmpty = true ↔ merge.2.isNoop = true))) :=
  ⟨by decide, isEmpty_sync_iff (by decide) plainCatalog {} "before" "after"⟩

/-- The message is kept and the merge tells that nothing has happened, but the message has another
text and another status now. -/
theorem reshaped_is_noop :
    plainCatalog.IsDistinct ∧ pluralTemplate.IsDistinct ∧
      (sync plainCatalog pluralTemplate {}).2.isNoop = true ∧
      (Comparison.ofCatalogs plainCatalog (sync plainCatalog pluralTemplate {}).1
        "before" "after").isEmpty = false := by
  refine ⟨by decide, by decide, by decide, ?_⟩
  -- The index does not reduce, so the changes are read off the entries.
  rw [Comparison.isEmpty, Comparison.ofCatalogs, changes_eq, changesOf_ofCatalog]
  decide

end MessageCatalog.Merge
