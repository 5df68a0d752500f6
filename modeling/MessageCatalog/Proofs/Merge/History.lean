import MessageCatalog.Proofs.Merge.Layout

/-!
# What translators have given survives

A message that has text is found under its key after every merge that does not drop retired
messages, whatever the template holds besides, and with all that translators have given to it
(`SameHistory`). So it is found after any number of merges, and its status depends on whether the
last template has its key.
-/

namespace MessageCatalog.Merge

/-! ## The history of a message -/

/-- The status of a message after a merge: ready or not as it was, and in use or retired. -/
def statusAfter (inUse : Bool) : Status → Status
  | .finished | .vanished => if inUse then .finished else .vanished
  | .unfinished | .obsolete => if inUse then .unfinished else .obsolete

theorem statusAfter_true (s : Status) : statusAfter true s = revivedStatus s := by
  cases s <;> rfl

theorem statusAfter_false (s : Status) : statusAfter false s = retiredStatus s := by
  cases s <;> rfl

/-- Both messages carry what one translator has given. Only one of them may be in use. -/
structure SameHistory (m m' : Message) : Prop where
  target : m'.target = m.target
  oldSource : m'.oldSource = m.oldSource
  oldComment : m'.oldComment = m.oldComment
  translatorComment : m'.translatorComment = m.translatorComment
  numerus : m'.numerus = m.numerus
  revived : revivedStatus m'.status = revivedStatus m.status

namespace SameHistory

variable {m m' m'' : Message}

theorem refl (m : Message) : SameHistory m m :=
  ⟨rfl, rfl, rfl, rfl, rfl, rfl⟩

theorem trans (h : SameHistory m m') (h' : SameHistory m' m'') : SameHistory m m'' where
  target := h'.target.trans h.target
  oldSource := h'.oldSource.trans h.oldSource
  oldComment := h'.oldComment.trans h.oldComment
  translatorComment := h'.translatorComment.trans h.translatorComment
  numerus := h'.numerus.trans h.numerus
  revived := h'.revived.trans h.revived

/-- Messages with one history have one status after a merge. -/
theorem statusAfter_eq (h : SameHistory m m') (inUse : Bool) :
    statusAfter inUse m'.status = statusAfter inUse m.status := by
  have hr : ∀ s, statusAfter inUse s = statusAfter inUse (revivedStatus s) := by
    intro s
    cases s <;> rfl
  rw [hr, h.revived, ← hr]

theorem retired (m : Message) : SameHistory m m.retired where
  target := rfl
  oldSource := rfl
  oldComment := rfl
  translatorComment := rfl
  numerus := rfl
  revived := by
    rw [Message.retired]
    cases m.status <;> rfl

theorem refresh {t : Message} (hn : t.numerus = m.numerus) (formCount : Nat) :
    SameHistory m (refresh m t formCount) := by
  have hr : revivedStatus (revivedStatus m.status) = revivedStatus m.status :=
    revivedStatus_of_isActive (isActive_revivedStatus _)
  constructor
  · exact target_refresh hn.symm formCount
  · rfl
  · rfl
  · rfl
  · exact hn
  · rw [status_refresh hn.symm, hr]

end SameHistory

/-! ## One merge -/

section Step
variable {existing template : Catalog} {options : Options} {name : String} {key : Key}
  {m t : Message}

/-- A message of the template takes over from the message with its key. -/
theorem find?_sync_refresh (hm : existing.find? name key = some m)
    (ht : template.find? name key = some t) :
    (sync existing template options).1.find? name key =
      some (refresh m t (formCountOf existing)) := by
  obtain ⟨context, hc, hf⟩ := Option.bind_eq_some_iff.1 ht
  have hn := Catalog.name_of_context? hc
  have hk : t.key = key := by simpa using List.find?_some hf
  rw [Catalog.find?_eq, messagesOf_sync hc, List.find?_append, find?_settledMessages, hf, hn]
  simp only [Option.map_some, Option.some_or, settleIn, hk, hm, settle]

/-- A message that stays is found among what is left of its context. -/
theorem find?_retireIn (hm : existing.find? name key = some m)
    (hs : stays template options name m = true) :
    (retireIn existing template options name).1.find? (·.key = key) = some m.retired := by
  rw [Catalog.find?_eq] at hm
  rw [retireIn, retire_fst, find?_map_key key_retired, find?_filter_of_find? hm hs]
  rfl

/-- A message that stays is found again under its key. -/
theorem find?_sync_retired (hm : existing.find? name key = some m)
    (hs : stays template options name m = true) :
    (sync existing template options).1.find? name key = some m.retired := by
  have hr := find?_retireIn hm hs
  cases hc : template.context? name with
  | some context =>
    -- The messages in front of it are those of the template, which have other keys.
    have hi := not_inTemplate_of_stays hs
    rw [Catalog.key_of_find? hm] at hi
    have hf := find?_eq_none_of_not_inTemplate hc hi
    rw [Catalog.find?_eq, messagesOf_sync hc, List.find?_append, find?_settledMessages, hf, hr]
    rfl
  | none =>
    -- Its context is not left out, since the message is in it.
    have hne : (retireIn existing template options name).1 ≠ [] := by
      intro he
      rw [he] at hr
      cases hr
    rw [Catalog.find?_eq, messagesOf_sync_unknown hc hne, hr]

/-- The template has no message with a key, or the message that it has under the key depends on a
count or not as given. -/
def Admits (template : Catalog) (name : String) (key : Key) (numerus : Bool) : Prop :=
  (∀ c ∈ template.contexts, c.name = name → key ∉ c.messages.map (·.key)) ∨
    ∃ t, template.find? name key = some t ∧ t.numerus = numerus

instance (template : Catalog) (name : String) (key : Key) (numerus : Bool) :
    Decidable (Admits template name key numerus) :=
  decidable_of_iff ((∀ c ∈ template.contexts, c.name = name → key ∉ c.messages.map (·.key)) ∨
      (template.find? name key).any (·.numerus == numerus) = true)
    (by simp only [Admits, Option.any_eq_true, beq_iff_eq])

/-- What the template does not have is not found in it. -/
theorem find?_template_eq_none (hi : inTemplate template name key = false) :
    template.find? name key = none := by
  cases hc : template.context? name with
  | none => rw [Catalog.find?, hc, Option.bind_none]
  | some context =>
    rw [Catalog.find?, hc, Option.bind_some]
    exact find?_eq_none_of_not_inTemplate hc hi

/-- One merge: a message with text is found again, with its history. -/
theorem find?_sync (hm : existing.find? name key = some m) (ht : m.target.isEmpty = false)
    (ho : options.dropObsolete = false) (ha : Admits template name key m.numerus) :
    ∃ m', (sync existing template options).1.find? name key = some m' ∧ SameHistory m m' ∧
      m'.status = statusAfter (template.find? name key).isSome m.status := by
  rcases ha with ha | ⟨t, hf, hn⟩
  · have hi := inTemplate_eq_false_iff.2 ha
    have hs : stays template options name m = true := by
      rw [stays, Catalog.key_of_find? hm, hi, ho, ht]
      rfl
    refine ⟨m.retired, find?_sync_retired hm hs, SameHistory.retired m, ?_⟩
    rw [find?_template_eq_none hi, Option.isSome_none, statusAfter_false]
    rfl
  · refine ⟨_, find?_sync_refresh hm hf, SameHistory.refresh hn _, ?_⟩
    rw [hf, Option.isSome_some, statusAfter_true]
    exact status_refresh hn.symm _

end Step

/-! ## Any number of merges -/

/-- Merge an existing catalog into one template after the other. -/
def syncAll (existing : Catalog) (runs : List (Catalog × Options)) : Catalog :=
  runs.foldl (fun c run => (sync c run.1 run.2).1) existing

/-- A run keeps retired messages, and its template admits the message with a key. -/
def Keeps (name : String) (key : Key) (numerus : Bool) (run : Catalog × Options) : Prop :=
  run.2.dropObsolete = false ∧ Admits run.1 name key numerus

instance (name : String) (key : Key) (numerus : Bool) (run : Catalog × Options) :
    Decidable (Keeps name key numerus run) :=
  inferInstanceAs (Decidable (_ ∧ _))

variable {existing : Catalog} {name : String} {key : Key} {m : Message}

/-- The step of `find?_sync`, taken any number of times. -/
theorem find?_syncAll {runs : List (Catalog × Options)} (hm : existing.find? name key = some m)
    (ht : m.target.isEmpty = false) (hr : ∀ run ∈ runs, Keeps name key m.numerus run) :
    ∃ m', (syncAll existing runs).find? name key = some m' ∧ SameHistory m m' := by
  induction runs generalizing existing m with
  | nil => exact ⟨m, hm, SameHistory.refl m⟩
  | cons run runs ih =>
    obtain ⟨ho, ha⟩ := hr run List.mem_cons_self
    obtain ⟨m₁, hm₁, h₁, -⟩ := find?_sync hm ht ho ha
    have hr₁ : ∀ run ∈ runs, Keeps name key m₁.numerus run := by
      intro run hrun
      rw [h₁.numerus]
      exact hr run (List.mem_cons_of_mem _ hrun)
    obtain ⟨m₂, hm₂, h₂⟩ := ih hm₁ (by rw [h₁.target, ht]) hr₁
    exact ⟨m₂, hm₂, h₁.trans h₂⟩

/-- Translation history survives any number of merges. A message with text is found under its key
with its text and what else translators have given, ready or not as it was, in use if the last
template has its key and retired otherwise. -/
theorem history_survives (runs : List (Catalog × Options)) (last : Catalog × Options)
    (hm : existing.find? name key = some m) (ht : m.target.isEmpty = false)
    (hr : ∀ run ∈ runs ++ [last], Keeps name key m.numerus run) :
    ∃ m', (syncAll existing (runs ++ [last])).find? name key = some m' ∧
      m'.target = m.target ∧ m'.oldSource = m.oldSource ∧ m'.oldComment = m.oldComment ∧
      m'.translatorComment = m.translatorComment ∧
      m'.status = statusAfter (last.1.find? name key).isSome m.status := by
  obtain ⟨m₁, hm₁, h₁⟩ := find?_syncAll hm ht fun run hrun => hr run (List.mem_append_left _ hrun)
  obtain ⟨ho, ha⟩ := hr last (by simp)
  rw [← h₁.numerus] at ha
  obtain ⟨m₂, hm₂, h₂, hs⟩ := find?_sync hm₁ (by rw [h₁.target, ht]) ho ha
  have h := h₁.trans h₂
  rw [h₁.statusAfter_eq] at hs
  refine ⟨m₂, ?_, h.target, h.oldSource, h.oldComment, h.translatorComment, hs⟩
  rw [syncAll, List.foldl_append]
  exact hm₂

/-- A retired message of the sample is passed over by a template and in use again with the next. -/
theorem history_survives_sample :
    let m : Message := { source := "Close", target := .single "Schließen", status := .vanished }
    let first : Catalog × Options := (sampleTemplate, {})
    let last : Catalog × Options := (sampleCatalog, { noSameText := true })
    sampleCatalog.find? "Main" ⟨"Close", ""⟩ = some m ∧ m.target.isEmpty = false ∧
      (∀ run ∈ [first] ++ [last], Keeps "Main" ⟨"Close", ""⟩ m.numerus run) ∧
      ∃ m', (syncAll sampleCatalog ([first] ++ [last])).find? "Main" ⟨"Close", ""⟩ = some m' ∧
        m'.target = m.target ∧ m'.oldSource = m.oldSource ∧ m'.oldComment = m.oldComment ∧
        m'.translatorComment = m.translatorComment ∧
        m'.status = statusAfter (last.1.find? "Main" ⟨"Close", ""⟩).isSome m.status := by
  intro m first last
  have hm : sampleCatalog.find? "Main" ⟨"Close", ""⟩ = some m := by decide
  have ht : m.target.isEmpty = false := by decide
  have hr : ∀ run ∈ [first] ++ [last], Keeps "Main" ⟨"Close", ""⟩ m.numerus run := by decide
  exact ⟨hm, ht, hr, history_survives [first] last hm ht hr⟩

end MessageCatalog.Merge
