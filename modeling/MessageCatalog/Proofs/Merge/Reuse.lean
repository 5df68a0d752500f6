import MessageCatalog.Proofs.Merge.Accounting
import MessageCatalog.Proofs.Merge.Promotion

/-!
# Texts of equal strings elsewhere

A new message of a template may take the text of a finished message with its key in any context. Of
the finished messages with the key a merge looks at the first one alone (`sameText?_eq`), and its
text is taken if it has the shape that the new message needs. So the first text of that shape is
taken unless a finished message with the key and a text of the other shape stands in front of it
(`IsHidden`), and then no text is taken. All other new messages are empty.
-/

namespace MessageCatalog.Merge

/-! ## What is offered -/

/-- The message has a text for its key that is ready: it is finished, and no form lacks its text. -/
structure HasText (t m : Message) : Prop where
  finished : m.status = .finished
  complete : m.target.isComplete = true
  key : m.key = t.key

instance (t m : Message) : Decidable (HasText t m) :=
  decidable_of_iff (m.status = .finished ∧ m.target.isComplete = true ∧ m.key = t.key)
    ⟨fun h => ⟨h.1, h.2.1, h.2.2⟩, fun h => ⟨h.1, h.2, h.3⟩⟩

/-- The text has the shape that a message needs: forms if it depends on a count, and else one
text. -/
def HasShape (t : Message) : Target → Prop
  | .single _ => t.numerus = false
  | .plural _ => t.numerus = true

instance (t : Message) : (target : Target) → Decidable (HasShape t target)
  | .single _ => inferInstanceAs (Decidable (t.numerus = false))
  | .plural _ => inferInstanceAs (Decidable (t.numerus = true))

/-- The first text of the right shape that an existing catalog has for a message, in the order of
its file and in whatever context. -/
def offer? (existing : Catalog) (t : Message) : Option Target :=
  (existing.entries.find? fun e => HasText t e.2 ∧ HasShape t e.2.target).map (·.2.target)

/-- The first text that an existing catalog has for a message is of the wrong shape. -/
def IsHidden (existing : Catalog) (t : Message) : Prop :=
  ∃ e, existing.entries.find? (fun e => HasText t e.2) = some e ∧ ¬HasShape t e.2.target

instance (existing : Catalog) (t : Message) : Decidable (IsHidden existing t) :=
  inferInstanceAs (Decidable (∃ e ∈ existing.entries.find? (fun e => HasText t e.2),
    ¬HasShape t e.2.target))

/-- The text that a merge gives to a new message. -/
def given? (existing : Catalog) (t : Message) : Option Target :=
  if IsHidden existing t then none else offer? existing t

section Reuse
variable {existing template : Catalog} {options : Options} {t : Message}

theorem sameText?_eq :
    sameText? existing t.key =
      (existing.entries.find? fun e => HasText t e.2).map (·.2.target) := by
  have hp : (fun e : String × Message => e.2.isTranslated && decide (e.2.key = t.key)) =
      fun e => decide (HasText t e.2) := by
    funext e
    rw [Bool.eq_iff_iff, Bool.and_eq_true, decide_eq_true_iff, decide_eq_true_iff,
      Message.isTranslated, Bool.and_eq_true, decide_eq_true_iff]
    exact ⟨fun h => ⟨h.1.1, h.1.2, h.2⟩, fun h => ⟨⟨h.1, h.2⟩, h.3⟩⟩
  exact congrArg (fun p => (existing.entries.find? p).map (·.2.target)) hp

theorem fits_iff {target : Target} : fits target t.numerus = true ↔ HasShape t target := by
  cases target with
  | single text => simp [fits, HasShape]
  | plural forms => exact Iff.rfl

/-- A merge looks at the first text for the key, and takes it if it has the right shape. So it takes
the first one of the right shape, unless that is hidden. -/
theorem reusable?_eq (h : options.noSameText = false) :
    reusable? existing options t = given? existing t := by
  rw [reusable?, h, if_neg Bool.false_ne_true, sameText?_eq, given?]
  cases hf : existing.entries.find? fun e => HasText t e.2 with
  | none =>
    have hnone : offer? existing t = none := by
      rw [offer?, Option.map_eq_none_iff, List.find?_eq_none]
      intro e he hoffer
      exact List.find?_eq_none.1 hf e he (decide_eq_true (of_decide_eq_true hoffer).1)
    rw [hnone, ite_self]
    rfl
  | some e =>
    by_cases hs : HasShape t e.2.target
    · have hfirst : offer? existing t = some e.2.target := by
        rw [offer?, find?_and_of_find? hf hs]
        rfl
      have hopen : ¬IsHidden existing t := by
        rintro ⟨e', he', hs'⟩
        obtain rfl := Option.some.inj (hf.symm.trans he')
        exact hs' hs
      rw [if_neg hopen, hfirst]
      exact Option.filter_some_pos (fits_iff.2 hs)
    · rw [if_pos ⟨e, hf, hs⟩]
      exact Option.filter_some_neg (Bool.eq_false_iff.2 (mt fits_iff.1 hs))

/-- The text that a merge gives is the first one of the right shape, unless there is one and it is
hidden. -/
theorem given?_eq_offer?_iff :
    given? existing t = offer? existing t ↔ (IsHidden existing t → offer? existing t = none) := by
  unfold given?
  split
  · next hh => exact ⟨fun h _ => h.symm, fun h => (h hh).symm⟩
  · next hh => exact iff_of_true rfl fun h => absurd h hh

/-! ## New messages -/

/-- The existing catalog has no message with the key of an entry in the context with its name. -/
def IsNew (existing : Catalog) (t : String × Message) : Prop :=
  existing.find? t.1 t.2.key = none

instance (existing : Catalog) (t : String × Message) : Decidable (IsNew existing t) :=
  inferInstanceAs (Decidable (existing.find? t.1 t.2.key = none))

/-- The entry of a result for an entry of the template. If that is new, it is unfinished and has the
text that is given to it, or else an empty text or empty forms. -/
structure TakesText (existing : Catalog) (e t : String × Message) : Prop where
  settles : SettlesEntry e t
  status : IsNew existing t → e.2.status = .unfinished
  target : IsNew existing t → e.2.target =
    (given? existing t.2).getD (emptyTarget t.2.numerus (formCountOf existing))

variable {name : String} {s : Message × Summary}

/-- A new message takes the text that is given to it and is counted for it. -/
theorem Outcome.eq_of_isNew
    (ho : Outcome existing options (formCountOf existing) name t s) (hn : IsNew existing (name, t))
    (h : options.noSameText = false) :
    s = (fresh t ((given? existing t).getD (emptyTarget t.numerus (formCountOf existing))),
      if (given? existing t).isSome then { sameText := 1 } else { added := 1 }) := by
  have hold : ∀ {m}, existing.find? name t.key ≠ some m := by
    intro m hm
    rw [show existing.find? name t.key = none from hn] at hm
    cases hm
  cases ho with
  | kept hm _ => exact absurd hm hold
  | revived hm _ => exact absurd hm hold
  | reused _ hr =>
    rw [reusable?_eq h] at hr
    rw [hr]
    rfl
  | added _ hr =>
    rw [reusable?_eq h] at hr
    rw [hr]
    rfl

/-- A message that is not new is counted neither as reused nor as added. -/
theorem Outcome.gained_of_not_isNew
    (ho : Outcome existing options (formCountOf existing) name t s)
    (hn : ¬IsNew existing (name, t)) : s.2.sameText = 0 ∧ s.2.added = 0 := by
  cases ho with
  | kept _ _ => exact ⟨rfl, rfl⟩
  | revived _ _ => exact ⟨rfl, rfl⟩
  | reused hnone _ => exact absurd hnone hn
  | added hnone _ => exact absurd hnone hn

theorem Outcome.takesText (ho : Outcome existing options (formCountOf existing) name t s)
    (hs : Settles s.1 t) (h : options.noSameText = false) :
    TakesText existing (name, s.1) (name, t) where
  settles := ⟨rfl, hs⟩
  status hn := by
    rw [ho.eq_of_isNew hn h]
    rfl
  target hn := by
    rw [ho.eq_of_isNew hn h]
    rfl

theorem Outcome.sameText_eq (ho : Outcome existing options (formCountOf existing) name t s)
    (h : options.noSameText = false) :
    s.2.sameText = if IsNew existing (name, t) ∧ (given? existing t).isSome then 1 else 0 := by
  by_cases hn : IsNew existing (name, t)
  · rw [ho.eq_of_isNew hn h]
    cases given? existing t <;> simp [hn]
  · rw [(ho.gained_of_not_isNew hn).1, if_neg fun hc => hn hc.1]

theorem Outcome.added_eq (ho : Outcome existing options (formCountOf existing) name t s)
    (h : options.noSameText = false) :
    s.2.added = if IsNew existing (name, t) ∧ given? existing t = none then 1 else 0 := by
  by_cases hn : IsNew existing (name, t)
  · rw [ho.eq_of_isNew hn h]
    cases given? existing t <;> simp [hn]
  · rw [(ho.gained_of_not_isNew hn).2, if_neg fun hc => hn hc.1]

/-! ## Counts -/

theorem gained_retire_eq_zero (ms : List Message) :
    (retire template options name [] ms).2.sameText = 0 ∧
      (retire template options name [] ms).2.added = 0 := by
  have h : (retire template options name [] ms).2.gained = 0 := gained_retire [] ms
  rw [Summary.gained] at h
  omega

end Reuse

/-- A new message of the template is unfinished in the result of a merge. It has the first text of
its shape that a finished message with its key has anywhere, no form of it lacking, and is counted
as one with the text of an equal string; but where the first text for its key is of the other shape
(`IsHidden`), and where there is none, it is empty and counted as added. -/
theorem sync_reuses (existing template : Catalog) {options : Options}
    (h : options.noSameText = false) :
    let merge := sync existing template options
    List.Forall₂ (TakesText existing) (merge.1.entries.filter (·.2.isActive)) template.entries ∧
      merge.2.sameText =
        template.entries.countP (fun t => IsNew existing t ∧ (given? existing t.2).isSome) ∧
      merge.2.added =
        template.entries.countP (fun t => IsNew existing t ∧ given? existing t.2 = none) ∧
      ∀ t, given? existing t = offer? existing t ↔
        (IsHidden existing t → offer? existing t = none) := by
  intro merge
  have ho := fun t : String × Message =>
    outcome_settleIn existing options (formCountOf existing) t.1 t.2
  refine ⟨?_, ?_, ?_, fun t => given?_eq_offer?_iff⟩
  · rw [entries_inUse_sync]
    exact List.forall₂_map_left_iff.2 (List.forall₂_same.2 fun t _ =>
      (ho t).takesText (settles_settleIn existing options _ t.1 t.2) h)
  · rw [count_sync existing template options rfl (fun _ _ => rfl)
      fun name ms => (gained_retire_eq_zero ms).1]
    exact total_eq_countP fun t _ => by simpa using (ho t).sameText_eq h
  · rw [count_sync existing template options rfl (fun _ _ => rfl)
      fun name ms => (gained_retire_eq_zero ms).2]
    exact total_eq_countP fun t _ => by simpa using (ho t).added_eq h

/-- A catalog in which one key has a text in one context and forms in another. -/
def mixedCatalog : Catalog where
  language := some "de"
  contexts := [
    { name := "Menu", messages := [
      { source := "%n file(s)", target := .single "Dateien" },
      { source := "Open", target := .single "Öffnen" }] },
    { name := "Status", messages := [
      { source := "%n file(s)", numerus := true, target := .plural ["%n Datei", "%n Dateien"] }] }]

/-- A template with new messages for both keys. -/
def dialogTemplate : Catalog where
  contexts := [
    { name := "Dialog", messages := [
      { source := "Open", status := .unfinished },
      { source := "%n file(s)", numerus := true, status := .unfinished }] }]

theorem sync_reuses_mixed :
    let merge := sync mixedCatalog dialogTemplate {}
    ({} : Options).noSameText = false ∧
      List.Forall₂ (TakesText mixedCatalog) (merge.1.entries.filter (·.2.isActive))
        dialogTemplate.entries ∧
      merge.2.sameText = dialogTemplate.entries.countP
        (fun t => IsNew mixedCatalog t ∧ (given? mixedCatalog t.2).isSome) ∧
      merge.2.added = dialogTemplate.entries.countP
        (fun t => IsNew mixedCatalog t ∧ given? mixedCatalog t.2 = none) ∧
      ∀ t, given? mixedCatalog t = offer? mixedCatalog t ↔
        (IsHidden mixedCatalog t → offer? mixedCatalog t = none) := by
  intro merge
  exact ⟨rfl, sync_reuses mixedCatalog dialogTemplate rfl⟩

/-- The forms stand ready in the existing catalog, which is read from a file, but the text in front
of them hides them: the new message has empty forms and is counted as added. -/
theorem hidden_forms_not_reused :
    let t : Message := { source := "%n file(s)", numerus := true, status := .unfinished }
    Catalog.parse mixedCatalog.print = .ok mixedCatalog ∧ mixedCatalog.IsDistinct ∧
      ("Dialog", t) ∈ dialogTemplate.entries ∧ IsNew mixedCatalog ("Dialog", t) ∧
      offer? mixedCatalog t = some (.plural ["%n Datei", "%n Dateien"]) ∧
      ((sync mixedCatalog dialogTemplate {}).1.find? "Dialog" t.key).map (·.target) =
        some (.plural ["", ""]) ∧
      (sync mixedCatalog dialogTemplate {}).2.sameText = 1 ∧
      (sync mixedCatalog dialogTemplate {}).2.added = 1 := by
  intro t
  refine ⟨?_, by decide, by decide, by decide, by decide, by decide, by decide, by decide⟩
  have hs : mixedCatalog.IsShaped := by decide
  rw [Catalog.parse_print, Catalog.shaped_eq_self_iff.2 hs]

end MessageCatalog.Merge
