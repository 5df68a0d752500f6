import MessageCatalog.Proofs.Merge.Reuse

/-!
# What the options of a merge change

Each option changes one thing. When retired messages are dropped, the result is what is in use of
the one that keeps them, and they are counted as dropped and no longer as retired (`inUse`,
`Summary.dropping`). When new messages are left without text, their texts are empty, and those that
would have taken a text are counted as added (`withoutNewTexts`, `Summary.bare`). All the rest is
the same (`sync_options`).
-/

namespace MessageCatalog

/-- The messages of a context that are in use. -/
def Context.inUse (c : Context) : Context :=
  { c with messages := c.messages.filter (·.isActive) }

/-- How many messages of a context are retired. -/
def Context.retiredCount (c : Context) : Nat :=
  c.messages.countP (!·.isActive)

/-- How many messages of a catalog are retired. -/
def Catalog.retiredCount (c : Catalog) : Nat :=
  c.entries.countP (!·.2.isActive)

theorem Catalog.retiredCount_eq (c : Catalog) :
    c.retiredCount = total (c.contexts.map (·.retiredCount)) := by
  rw [retiredCount, List.countP_eq_length_filter, entries, List.filter_flatMap, length_flatMap]
  refine congrArg total (List.map_congr_left fun context _ => ?_)
  rw [Context.retiredCount, List.countP_eq_length_filter, List.filter_map, List.length_map]
  rfl

namespace Merge

/-! ## What is left out -/

/-- The messages of a merged catalog that are in use, in the contexts that its template has. -/
def inUse (template merged : Catalog) : Catalog :=
  { merged with
    contexts := (merged.contexts.filter fun c => (template.context? c.name).isSome).map (·.inUse) }

/-- The summary when some more messages are dropped, and none are kept as retired. -/
def Summary.dropping (s : Summary) (more : Nat) : Summary :=
  { s with vanished := 0, obsoleted := 0, dropped := s.dropped + more }

/-- A message in use loses its text if it is new. -/
def withoutNewText (existing : Catalog) (name : String) (m : Message) : Message :=
  if m.isActive = true ∧ IsNew existing (name, m) then
    { m with target := emptyTarget m.numerus (formCountOf existing) }
  else m

/-- A merged context without the texts of its new messages. -/
def contextWithoutNewTexts (existing : Catalog) (c : Context) : Context :=
  { c with messages := c.messages.map (withoutNewText existing c.name) }

/-- A merged catalog without the texts of its new messages. -/
def withoutNewTexts (existing merged : Catalog) : Catalog :=
  { merged with contexts := merged.contexts.map (contextWithoutNewTexts existing) }

/-- The summary when no message takes the text of an equal string. -/
def Summary.bare (s : Summary) : Summary :=
  { s with added := s.added + s.sameText, sameText := 0 }

/-! ## Summaries -/

theorem dropping_add (a b : Summary) (m n : Nat) :
    (a.dropping m).add (b.dropping n) = (a.add b).dropping (m + n) := by
  simp only [Summary.dropping, Summary.add, Summary.mk.injEq, true_and]
  omega

/-- Beside a summary in which nothing is retired. -/
theorem add_dropping {a : Summary} (ha : a.dropping 0 = a) (b : Summary) (n : Nat) :
    a.add (b.dropping n) = (a.add b).dropping n := by
  have h := dropping_add a b 0 n
  rwa [ha, Nat.zero_add] at h

theorem sum_dropping {α : Type} (f : α → Summary) (more : α → Nat) (s : List α) :
    Summary.sum (s.map fun a => (f a).dropping (more a)) =
      (Summary.sum (s.map f)).dropping (total (s.map more)) := by
  induction s with
  | nil => rfl
  | cons a s ih =>
    simp only [List.map_cons, sum_cons, total_cons]
    rw [ih, dropping_add]

theorem bare_add (a b : Summary) : a.bare.add b.bare = (a.add b).bare := by
  simp only [Summary.bare, Summary.add, Summary.mk.injEq, true_and, and_true]
  omega

theorem sum_bare {α : Type} (f : α → Summary) (s : List α) :
    Summary.sum (s.map fun a => (f a).bare) = (Summary.sum (s.map f)).bare := by
  induction s with
  | nil => rfl
  | cons a s ih => rw [List.map_cons, List.map_cons, sum_cons, sum_cons, ih, bare_add]

section Options
variable {existing template : Catalog} {name : String} {dropObsolete noSameText : Bool}
  {formCount : Nat}

/-! ## Retired messages -/

theorem isActive_retired (m : Message) : m.retired.isActive = false := by
  rw [Message.isActive, Message.retired]
  cases m.status <;> rfl

theorem isActive_of_mem_retire {options : Options} {live : List Key} {ms : List Message}
    {m : Message} (hm : m ∈ (retire template options name live ms).1) : m.isActive = false := by
  obtain ⟨old, -, -, rfl⟩ := mem_retire.1 hm
  exact isActive_retired old

/-- A message that is dropped is not counted as retired. -/
theorem dropping_retiredSummary (s : Status) :
    (retiredSummary s).dropping 1 = { dropped := 1 } := by
  cases s <;> rfl

/-- To drop retired messages leaves none, and counts those that would have been kept. -/
theorem retire_dropping (live : List Key) (ms : List Message) :
    retire template ⟨true, noSameText⟩ name live ms =
      ([], (retire template ⟨false, noSameText⟩ name live ms).2.dropping
        (retire template ⟨false, noSameText⟩ name live ms).1.length) := by
  induction ms generalizing live with
  | nil => rfl
  | cons m ms ih =>
    cases hi : inTemplate template name m.key with
    | true =>
      rw [retire_cons_live hi, retire_cons_live hi, ih]
      split
      · rw [add_dropping rfl]
      · rfl
    | false =>
      cases hs : stays template ⟨false, noSameText⟩ name m with
      | true =>
        rw [retire_cons_dropped hi (by simp [stays]), retire_cons_stays hs, ih,
          ← dropping_retiredSummary m.status, dropping_add, List.length_cons, Nat.add_comm]
      | false =>
        rw [retire_cons_dropped hi (by simp [stays]), retire_cons_dropped hi hs, ih,
          add_dropping rfl]

/-- The texts of new messages do not matter to the retired ones. -/
theorem retire_bare (live : List Key) (ms : List Message) :
    retire template ⟨dropObsolete, true⟩ name live ms =
      retire template ⟨dropObsolete, false⟩ name live ms := by
  induction ms generalizing live with
  | nil => rfl
  | cons m ms ih => simp only [retire_cons, ih]

theorem bare_retire {options : Options} (ms : List Message) :
    (retire template options name [] ms).2.bare = (retire template options name [] ms).2 := by
  have h : (retire template options name [] ms).2.sameText = 0 ∧
      (retire template options name [] ms).2.added = 0 := gained_retire_eq_zero ms
  rw [Summary.bare, h.1, Nat.add_zero]
  generalize (retire template options name [] ms).2 = s at h
  rw [← h.1]

/-! ## Contexts without retired messages -/

/-- What is in use of some settled messages with retired ones behind them. -/
theorem filter_settled_append {settled retired : List Message}
    (hs : ∀ m ∈ settled, m.isActive = true) (hr : ∀ m ∈ retired, m.isActive = false) :
    (settled ++ retired).filter (·.isActive) = settled ∧
      (settled ++ retired).countP (!·.isActive) = retired.length := by
  have hkept : settled.filter (·.isActive) = settled := List.filter_eq_self.2 hs
  have hnone : retired.filter (·.isActive) = [] := by
    simpa using hr
  have hzero : settled.countP (!·.isActive) = 0 := by
    simpa using hs
  have hall : retired.countP (!·.isActive) = retired.length := by
    simpa using hr
  rw [List.filter_append, List.countP_append, hkept, hnone, hzero, hall]
  simp

theorem isActive_of_mem_settledMessages {options : Options} {context : Context} {m : Message}
    (hm : m ∈ settledMessages existing options formCount context) : m.isActive = true := by
  obtain ⟨t, -, rfl⟩ := List.mem_map.1 hm
  exact (settles_settleIn existing options formCount context.name t).active

theorem Outcome.dropping {options : Options} {t : Message} {s : Message × Summary}
    (h : Outcome existing options formCount name t s) : s.2.dropping 0 = s.2 := by
  cases h <;> rfl

/-- No message of the template is counted as retired. -/
theorem dropping_settled (options : Options) (ts : List Message) :
    (Summary.sum (ts.map fun t => (settleIn existing options formCount name t).2)).dropping 0 =
      Summary.sum (ts.map fun t => (settleIn existing options formCount name t).2) := by
  have h := sum_dropping (fun t => (settleIn existing options formCount name t).2) (fun _ => 0) ts
  rw [total_eq_zero fun _ _ => rfl] at h
  rw [← h]
  exact congrArg Summary.sum (List.map_congr_left fun t _ =>
    (outcome_settleIn existing options formCount name t).dropping)

/-- When retired messages are dropped, what is in use of a context of the template is left. -/
theorem settleContext_dropping (context : Context) :
    settleContext existing template ⟨true, noSameText⟩ formCount context =
      ((settleContext existing template ⟨false, noSameText⟩ formCount context).1.inUse,
        (settleContext existing template ⟨false, noSameText⟩ formCount context).2.dropping
          (settleContext existing template ⟨false, noSameText⟩ formCount
            context).1.retiredCount) := by
  have hsettled : ∀ m ∈ settledMessages existing ⟨false, noSameText⟩ formCount context,
      m.isActive = true := fun m hm => isActive_of_mem_settledMessages hm
  have hretired : ∀ m ∈ (retireIn existing template ⟨false, noSameText⟩ context.name).1,
      m.isActive = false := fun m hm => isActive_of_mem_retire hm
  obtain ⟨hfilter, hcount⟩ := filter_settled_append hsettled hretired
  have hretire : retireIn existing template ⟨true, noSameText⟩ context.name = _ :=
    retire_dropping [] _
  rw [settleContext_eq, settleContext_eq, Context.inUse, Context.retiredCount, hretire]
  simp only [hfilter, hcount, List.append_nil]
  -- The messages of the template are settled whether retired ones are dropped or not.
  exact Prod.ext rfl (add_dropping (dropping_settled ⟨false, noSameText⟩ context.messages) _ _)

theorem retireContext_dropping (c : Context) :
    retireContext template ⟨true, noSameText⟩ c =
      ({ c with messages := [] },
        (retireContext template ⟨false, noSameText⟩ c).2.dropping
          (retireContext template ⟨false, noSameText⟩ c).1.retiredCount) := by
  have hretired : ∀ m ∈ (retire template ⟨false, noSameText⟩ c.name [] c.messages).1,
      m.isActive = false := fun m hm => isActive_of_mem_retire hm
  have hcount : (retire template ⟨false, noSameText⟩ c.name [] c.messages).1.countP (!·.isActive) =
      (retire template ⟨false, noSameText⟩ c.name [] c.messages).1.length :=
    (filter_settled_append (List.forall_mem_nil _) hretired).2
  rw [retireContext_eq, retireContext_eq, retire_dropping, Context.retiredCount, hcount]

/-! ## Contexts without new texts -/

theorem withoutNewText_of_not_isActive {m : Message} (h : m.isActive = false) :
    withoutNewText existing name m = m :=
  if_neg fun hm => by rw [h] at hm; cases hm.1

theorem withoutNewText_refresh {m t : Message} (hm : existing.find? name t.key = some m) :
    withoutNewText existing name (refresh m t formCount) = refresh m t formCount := by
  refine if_neg fun hn => ?_
  have hnew : existing.find? name t.key = none := hn.2
  rw [hm] at hnew
  cases hnew

theorem withoutNewText_fresh {t : Message} (hn : existing.find? name t.key = none)
    (target : Target) : withoutNewText existing name (fresh t target) =
      fresh t (emptyTarget t.numerus (formCountOf existing)) :=
  if_pos ⟨rfl, hn⟩

/-- A message of the template that is new loses its text, and any other is settled as it was. -/
theorem Outcome.settleIn_bare {t : Message} {s : Message × Summary}
    (h : Outcome existing ⟨dropObsolete, false⟩ (formCountOf existing) name t s) :
    settleIn existing ⟨dropObsolete, true⟩ (formCountOf existing) name t =
      (withoutNewText existing name s.1, s.2.bare) := by
  unfold settleIn settle
  cases h with
  | kept hm ha =>
    rw [withoutNewText_refresh hm, hm]
    simp only [ha]
    rfl
  | revived hm ha =>
    rw [withoutNewText_refresh hm, hm]
    simp only [ha]
    rfl
  | reused hn _ =>
    rw [withoutNewText_fresh hn, hn]
    rfl
  | added hn _ =>
    rw [withoutNewText_fresh hn, hn]
    rfl

theorem map_withoutNewText_retire {options : Options} (name' : String) (ms : List Message) :
    (retire template options name [] ms).1.map (withoutNewText existing name') =
      (retire template options name [] ms).1 :=
  (List.map_congr_left fun _ hm => withoutNewText_of_not_isActive (isActive_of_mem_retire hm)).trans
    (List.map_id' _)

/-- When new messages are left without text, a context of the template is settled as before but for
their texts. -/
theorem settleContext_bare (context : Context) :
    settleContext existing template ⟨dropObsolete, true⟩ (formCountOf existing) context =
      (contextWithoutNewTexts existing
          (settleContext existing template ⟨dropObsolete, false⟩ (formCountOf existing) context).1,
        (settleContext existing template ⟨dropObsolete, false⟩ (formCountOf existing)
          context).2.bare) := by
  have hsettle : ∀ t, settleIn existing ⟨dropObsolete, true⟩ (formCountOf existing) context.name t =
      _ := fun t => (outcome_settleIn existing ⟨dropObsolete, false⟩ _ context.name t).settleIn_bare
  have hretire : retireIn existing template ⟨dropObsolete, true⟩ context.name =
      retireIn existing template ⟨dropObsolete, false⟩ context.name := retire_bare [] _
  rw [settleContext_eq, settleContext_eq, contextWithoutNewTexts, hretire, ← bare_add, ← sum_bare]
  simp only [settledMessages, hsettle, List.map_append, List.map_map, Function.comp_def]
  rw [retireIn, map_withoutNewText_retire, bare_retire]

theorem retireContext_bare (c : Context) :
    retireContext template ⟨dropObsolete, true⟩ c =
      retireContext template ⟨dropObsolete, false⟩ c := by
  rw [retireContext_eq, retireContext_eq, retire_bare]

theorem bare_retireContext (options : Options) (c : Context) :
    (retireContext template options c).2.bare = (retireContext template options c).2 :=
  bare_retire c.messages

theorem contextWithoutNewTexts_retireContext (options : Options) (c : Context) :
    contextWithoutNewTexts existing (retireContext template options c).1 =
      (retireContext template options c).1 := by
  rw [retireContext_eq, contextWithoutNewTexts, map_withoutNewText_retire]

end Options

/-! ## Catalogs -/

section Catalogs
variable {existing template : Catalog}

/-- Of the contexts that the template does not have nothing is left. -/
theorem goneContexts_dropping (noSameText : Bool) :
    goneContexts existing template ⟨true, noSameText⟩ = [] := by
  rw [goneContexts, List.filter_eq_nil_iff]
  intro c hc
  obtain ⟨old, -, rfl⟩ := List.mem_map.1 hc
  rw [retireContext_dropping]
  simp

theorem context?_goneContexts {options : Options} {c : Context}
    (hc : c ∈ goneContexts existing template options) : template.context? c.name = none := by
  obtain ⟨old, ho, rfl⟩ := List.mem_map.1 (List.mem_filter.1 hc).1
  simpa using (List.mem_filter.1 ho).2

/-- Of a merged catalog the contexts of its template are left, with the messages that are in use. -/
theorem inUse_sync (options : Options) :
    inUse template (sync existing template options).1 =
      { version := existing.version
        language := existing.language
        sourceLanguage := existing.sourceLanguage.or template.sourceLanguage
        contexts := template.contexts.map fun c =>
          (settleContext existing template options (formCountOf existing) c).1.inUse } := by
  have hsettled : ∀ c ∈ template.contexts.map fun c =>
      (settleContext existing template options (formCountOf existing) c).1,
        (template.context? c.name).isSome = true := by
    intro c hc
    obtain ⟨t, ht, rfl⟩ := List.mem_map.1 hc
    rw [name_settleContext, Catalog.context?, List.find?_isSome]
    exact ⟨t, ht, decide_eq_true rfl⟩
  have hgone : ∀ c ∈ goneContexts existing template options,
      ¬(template.context? c.name).isSome = true := by
    intro c hc
    rw [context?_goneContexts hc]
    exact Bool.false_ne_true
  rw [inUse, sync_eq]
  simp only [List.filter_append, List.filter_eq_self.2 hsettled, List.filter_eq_nil_iff.2 hgone,
    List.append_nil, List.map_map, Function.comp_def]

/-- The retired messages stand in the contexts of the template and in those that it does not
have. -/
theorem retiredCount_sync (options : Options) :
    (sync existing template options).1.retiredCount =
      total (template.contexts.map fun c =>
        (settleContext existing template options (formCountOf existing) c).1.retiredCount) +
      total ((unknownContexts existing template).map fun c =>
        (retireContext template options c).1.retiredCount) := by
  rw [Catalog.retiredCount_eq, sync_eq, List.map_append, total_append, goneContexts,
    total_map_filter, List.map_map, List.map_map]
  · rfl
  · intro c _ hc
    have hnil : c.messages = [] := by simpa using hc
    rw [Context.retiredCount, hnil]
    rfl

/-- A merge that drops retired messages, against the one that keeps them. -/
theorem sync_dropping (noSameText : Bool) :
    sync existing template ⟨true, noSameText⟩ =
      (inUse template (sync existing template ⟨false, noSameText⟩).1,
        (sync existing template ⟨false, noSameText⟩).2.dropping
          (sync existing template ⟨false, noSameText⟩).1.retiredCount) := by
  refine Prod.ext ?_ ?_
  · rw [inUse_sync, sync_eq, goneContexts_dropping]
    simp only [settleContext_dropping, List.append_nil]
  · rw [retiredCount_sync, sync_eq, sync_eq, sum_append, sum_append, ← dropping_add,
      ← sum_dropping, ← sum_dropping]
    simp only [settleContext_dropping, retireContext_dropping]

/-- The messages in use are the same whether retired ones are dropped or not. -/
theorem messageCount_dropping (noSameText : Bool) :
    (sync existing template ⟨false, noSameText⟩).1.messageCount =
      (sync existing template ⟨true, noSameText⟩).1.messageCount +
        (sync existing template ⟨false, noSameText⟩).1.retiredCount := by
  have hentries : (sync existing template ⟨true, noSameText⟩).1.entries =
      (sync existing template ⟨false, noSameText⟩).1.entries.filter (·.2.isActive) := by
    rw [← isMerge_sync.filter_entries rfl, entries_inUse_sync, entries_inUse_sync]
    rfl
  rw [← Catalog.length_entries, ← Catalog.length_entries, hentries, Catalog.retiredCount,
    ← List.countP_eq_length_filter]
  simpa using List.length_eq_countP_add_countP fun e : String × Message => e.2.isActive

/-- A merge that leaves new messages without text, against the one that reuses texts. -/
theorem sync_bare (dropObsolete : Bool) :
    sync existing template ⟨dropObsolete, true⟩ =
      (withoutNewTexts existing (sync existing template ⟨dropObsolete, false⟩).1,
        (sync existing template ⟨dropObsolete, false⟩).2.bare) := by
  have hgone : (goneContexts existing template ⟨dropObsolete, true⟩) =
      (goneContexts existing template ⟨dropObsolete, false⟩).map
        (contextWithoutNewTexts existing) := by
    have hid : (goneContexts existing template ⟨dropObsolete, false⟩).map
        (contextWithoutNewTexts existing) =
          goneContexts existing template ⟨dropObsolete, false⟩ := by
      refine (List.map_congr_left fun c hc => ?_).trans (List.map_id' _)
      obtain ⟨old, -, rfl⟩ := List.mem_map.1 (List.mem_filter.1 hc).1
      exact contextWithoutNewTexts_retireContext _ old
    rw [hid, goneContexts, goneContexts]
    simp only [retireContext_bare]
  rw [sync_eq, sync_eq, withoutNewTexts, hgone, sum_append, sum_append, ← bare_add, ← sum_bare,
    ← sum_bare]
  simp only [settleContext_bare, retireContext_bare, bare_retireContext, List.map_append,
    List.map_map, Function.comp_def]

theorem isEmpty_emptyTarget (numerus : Bool) (formCount : Nat) :
    (emptyTarget numerus formCount).isEmpty = true := by
  cases numerus <;> simp [emptyTarget, Target.isEmpty]

/-- New messages have lost their texts. -/
theorem isEmpty_of_mem_withoutNewTexts {merged : Catalog} {e : String × Message}
    (he : e ∈ (withoutNewTexts existing merged).entries) (ha : e.2.isActive = true)
    (hn : IsNew existing e) : e.2.target.isEmpty = true := by
  obtain ⟨c, hc, m, hm, rfl⟩ := Catalog.exists_of_mem_entries he
  obtain ⟨c, -, rfl⟩ := List.mem_map.1 hc
  obtain ⟨m, -, rfl⟩ := List.mem_map.1 hm
  revert ha hn
  unfold withoutNewText
  split
  · intro _ _
    exact isEmpty_emptyTarget _ _
  · next hno => exact fun ha hn => absurd ⟨ha, hn⟩ hno

end Catalogs

/-- Each option of a merge acts on one thing alone. When retired messages are dropped, the result is
that of the merge that keeps them, less the retired messages and the contexts that the template does
not have, and these messages are counted as dropped. When new messages are left without text, the
results are equal but for the texts of new messages, which are empty, and those that would have
taken a text are counted as added. -/
theorem sync_options (existing template : Catalog) :
    (∀ noSameText : Bool,
      let keeping := sync existing template { dropObsolete := false, noSameText }
      let dropping := sync existing template { dropObsolete := true, noSameText }
      dropping.1 = inUse template keeping.1 ∧
        keeping.1.messageCount = dropping.1.messageCount + keeping.1.retiredCount ∧
        dropping.2 = { keeping.2 with
          vanished := 0, obsoleted := 0, dropped := keeping.2.dropped + keeping.1.retiredCount }) ∧
    ∀ dropObsolete : Bool,
      let reusing := sync existing template { dropObsolete, noSameText := false }
      let bare := sync existing template { dropObsolete, noSameText := true }
      bare.1 = withoutNewTexts existing reusing.1 ∧
        (∀ e ∈ bare.1.entries, e.2.isActive = true → IsNew existing e → e.2.target.isEmpty = true) ∧
        bare.2 = { reusing.2 with
          added := reusing.2.added + reusing.2.sameText, sameText := 0 } := by
  refine ⟨fun noSameText => ?_, fun dropObsolete => ?_⟩
  · intro keeping dropping
    have h : dropping = _ := sync_dropping noSameText
    exact ⟨congrArg Prod.fst h, messageCount_dropping noSameText,
      congrArg Prod.snd h⟩
  · intro reusing bare
    have h : bare = _ := sync_bare dropObsolete
    refine ⟨congrArg Prod.fst h, fun e he => ?_, congrArg Prod.snd h⟩
    rw [h] at he
    exact isEmpty_of_mem_withoutNewTexts he

/-- A template with a message of which the sample catalog has the text under another name. -/
def movedTemplate : Catalog where
  contexts := [
    { name := "Main", messages := [
      { source := "Open", status := .unfinished }, { source := "About", status := .unfinished }] }]

/-- The moved message takes its text when texts are reused, and is empty otherwise. -/
theorem sync_options_moved :
    let reusing := sync sampleCatalog movedTemplate {}
    let bare := sync sampleCatalog movedTemplate { noSameText := true }
    let e : String × Message := ("Main", { source := "About", status := .unfinished })
    (e.1, { e.2 with target := .single "Über" }) ∈ reusing.1.entries ∧ reusing.2.sameText = 1 ∧
      e ∈ bare.1.entries ∧ e.2.isActive = true ∧ IsNew sampleCatalog e ∧
      e.2.target.isEmpty = true ∧ bare.2.added = reusing.2.added + 1 := by
  intro reusing bare e
  have hreused : (e.1, { e.2 with target := .single "Über" }) ∈ reusing.1.entries := by decide
  have hmem : e ∈ bare.1.entries := by decide
  have hnew : IsNew sampleCatalog e := by decide
  obtain ⟨-, hempty, hcounts⟩ := (sync_options sampleCatalog movedTemplate).2 false
  refine ⟨hreused, by decide, hmem, rfl, hnew, hempty e hmem rfl hnew, ?_⟩
  exact congrArg Summary.added hcounts

end Merge

end MessageCatalog
