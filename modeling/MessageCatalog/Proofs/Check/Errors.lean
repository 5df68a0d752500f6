import MessageCatalog.Check.Validator
import MessageCatalog.Proofs.Catalog.RoundTrip
import MessageCatalog.Proofs.Lists

/-!
# The errors of a catalog

Five of the checks find errors, each of a kind of its own, so the findings of such a kind are those
of one check (`ofKind_validate`). What is lost when a catalog is written is the messages that are
not in shape (`roundTrip_eq`). A catalog without errors is a valid one (`hasNoError_iff`).
-/

namespace MessageCatalog.Check

/-! ## Kinds of findings -/

/-- The findings of a kind. -/
def ofKind (kind : IssueKind) (issues : List Issue) : List Issue :=
  issues.filter (·.kind = kind)

section OfKind
variable {kind own : IssueKind} {issues : List Issue}

theorem ofKind_append (kind : IssueKind) (s t : List Issue) :
    ofKind kind (s ++ t) = ofKind kind s ++ ofKind kind t :=
  List.filter_append ..

theorem ofKind_flatMap {α : Type} (kind : IssueKind) (s : List α) (f : α → List Issue) :
    ofKind kind (s.flatMap f) = s.flatMap fun a => ofKind kind (f a) :=
  List.filter_flatMap ..

theorem ofKind_eq_nil_iff : ofKind kind issues = [] ↔ ∀ i ∈ issues, i.kind ≠ kind := by
  simp [ofKind, List.filter_eq_nil_iff]

/-- A check that finds one kind finds all of it or nothing. -/
theorem ofKind_eq_ite (h : ∀ i ∈ issues, i.kind = own) :
    ofKind kind issues = if own = kind then issues else [] := by
  unfold ofKind
  split
  · next he =>
    exact List.filter_eq_self.2 fun i hi => decide_eq_true (by rw [h i hi, he])
  · next hne =>
    exact ofKind_eq_nil_iff.2 fun i hi => by rwa [h i hi]

/-- A check that finds no errors finds nothing of a kind that is an error. -/
theorem ofKind_eq_nil (h : ∀ i ∈ issues, i.severity ≠ .error) (hk : kind.severity = .error) :
    ofKind kind issues = [] := by
  rw [ofKind_eq_nil_iff]
  rintro i hi rfl
  exact h i hi hk

end OfKind

/-! ## Checks -/

section Checks
variable {i a : Issue} {c : Catalog} {context : Context} {name language form : String} {m : Message}

theorem eq_of_mem_ite {p : Prop} [Decidable p] (h : i ∈ if p then [a] else []) : i = a := by
  split at h
  · exact List.mem_singleton.1 h
  · cases h

theorem eq_of_mem_ite_not {p : Prop} [Decidable p] (h : i ∈ if p then [] else [a]) : i = a := by
  split at h
  · cases h
  · exact List.mem_singleton.1 h

theorem kind_checkLanguage (h : i ∈ checkLanguage c) : i.kind = .unknownLanguage := by
  unfold checkLanguage at h
  split at h
  · rw [List.mem_singleton.1 h]
  · rw [eq_of_mem_ite_not h]

theorem kind_checkVersion (h : i ∈ checkVersion c) : i.kind = .unsupportedVersion :=
  congrArg Issue.kind (eq_of_mem_ite_not h)

theorem kind_checkContextName (h : i ∈ checkContextName context) : i.kind = .emptyContextName :=
  congrArg Issue.kind (eq_of_mem_ite h)

theorem kind_checkDuplicates {seen : List Key} {ms : List Message}
    (h : i ∈ checkDuplicates name seen ms) : i.kind = .duplicateMessage := by
  induction ms generalizing seen with
  | nil => cases h
  | cons m ms ih =>
    unfold checkDuplicates at h
    split at h
    · rcases List.mem_cons.1 h with rfl | h
      · rfl
      · exact ih h
    · exact ih h

theorem kind_checkSource (h : i ∈ checkSource name m) : i.kind = .emptySource :=
  congrArg Issue.kind (eq_of_mem_ite h)

theorem kind_checkText (h : i ∈ checkText name m) : i.kind = .missingText :=
  congrArg Issue.kind (eq_of_mem_ite h)

theorem kind_checkForms (h : i ∈ checkForms language name m) : i.kind = .numerusFormCount :=
  congrArg Issue.kind (eq_of_mem_ite h)

theorem kind_checkForm (h : i ∈ checkForm name m form) :
    i.kind = .placeholderMismatch ∨ i.kind = .acceleratorMismatch ∨
      i.kind = .punctuationMismatch := by
  simp only [checkForm, List.mem_append] at h
  rcases h with (h | h) | h
  · exact .inl (congrArg Issue.kind (eq_of_mem_ite_not h))
  · exact .inr (.inl (congrArg Issue.kind (eq_of_mem_ite_not h)))
  · exact .inr (.inr (congrArg Issue.kind (eq_of_mem_ite_not h)))

/-- What a text holds is found in its forms or by counting them. -/
theorem kind_checkTexts (h : i ∈ checkTexts language name m) :
    i.kind = .numerusFormCount ∨ i.kind = .placeholderMismatch ∨ i.kind = .acceleratorMismatch ∨
      i.kind = .punctuationMismatch := by
  unfold checkTexts at h
  split at h
  · rcases List.mem_append.1 h with h | h
    · exact .inl (kind_checkForms h)
    · obtain ⟨form, -, h⟩ := List.mem_flatMap.1 h
      exact .inr (kind_checkForm h)
  · cases h

/-- What a text holds is no error. -/
theorem ofKind_checkTexts {kind : IssueKind} (hk : kind.severity = .error) :
    ofKind kind (checkTexts language name m) = [] := by
  rw [ofKind_eq_nil_iff]
  rintro i hi rfl
  rcases kind_checkTexts hi with hi | hi | hi | hi <;> rw [hi] at hk <;> cases hk

end Checks

/-! ## Writing and reading back -/

/-- The finding for a message that is lost when it is written. -/
def lossIssue (e : String × Message) : Issue where
  kind := .roundTripLoss
  context := e.1
  source := some e.2.source
  detail := "message differs after serialization"

theorem compareMessages_cons (name : String) (a b : Message) (before after : List Message) :
    compareMessages name (a :: before) (b :: after) =
      (if a = b then [] else [lossIssue (name, a)]) ++ compareMessages name before after := by
  by_cases he : a = b <;> simp [compareMessages, lossIssue, he]

theorem compareMessages_shaped (name : String) (ms : List Message) :
    compareMessages name ms (ms.map Message.shaped) =
      ((ms.map fun m => (name, m)).filter (¬·.2.IsShaped)).map lossIssue := by
  induction ms with
  | nil => rfl
  | cons m ms ih =>
    have he : m = m.shaped ↔ m.IsShaped := eq_comm.trans Message.shaped_eq_self_iff
    rw [List.map_cons, compareMessages_cons, ih, List.map_cons]
    by_cases hs : m.IsShaped
    · rw [if_pos (he.2 hs), List.filter_cons_of_neg (by simpa using hs), List.nil_append]
    · rw [if_neg (mt he.1 hs), List.filter_cons_of_pos (by simpa using hs), List.map_cons]
      rfl

theorem compareContexts_shaped (contexts : List Context) :
    ((contexts.zip (contexts.map Context.shaped)).flatMap fun (a, b) => compareContext a b) =
      ((contexts.flatMap fun context => context.messages.map fun m => (context.name, m)).filter
        (¬·.2.IsShaped)).map lossIssue := by
  induction contexts with
  | nil => rfl
  | cons context contexts ih =>
    have hcontext : compareContext context context.shaped =
        compareMessages context.name context.messages (context.messages.map Message.shaped) :=
      if_neg (by simp [Context.shaped])
    rw [List.map_cons, List.zip_cons_cons, List.flatMap_cons, List.flatMap_cons, ih,
      List.filter_append, List.map_append, ← compareMessages_shaped, ← hcontext]

/-- Exactly the messages that are not in shape are lost. -/
theorem roundTrip_eq (c : Catalog) :
    roundTrip c = (c.entries.filter (¬·.2.IsShaped)).map lossIssue := by
  have hheader : compareHeader c c.shaped = [] := by simp [compareHeader, Catalog.shaped]
  have hlength : ¬c.shaped.contexts.length ≠ c.contexts.length := by simp [Catalog.shaped]
  rw [roundTrip, Catalog.parseChars_printChars]
  dsimp only
  rw [hheader, List.nil_append, compareContexts, if_neg hlength]
  exact compareContexts_shaped c.contexts

theorem kind_roundTrip {c : Catalog} {i : Issue} (h : i ∈ roundTrip c) :
    i.kind = .roundTripLoss := by
  rw [roundTrip_eq] at h
  obtain ⟨e, -, rfl⟩ := List.mem_map.1 h
  rfl

/-! ## The findings of a catalog that are errors -/

theorem validate_eq (c : Catalog) : validate c = checkContent c ++ roundTrip c := by
  have he : ∀ kind, ({} : Validator).isEnabled kind = true := fun _ => rfl
  rw [validate, Validator.validate, if_pos (he _)]
  exact List.filter_eq_self.2 fun i _ => he i.kind

/-- The findings of a kind are those of the check that finds it. -/
theorem ofKind_validate (kind : IssueKind) (c : Catalog) :
    ofKind kind (validate c) =
      (if .unknownLanguage = kind then checkLanguage c else []) ++
        (if .unsupportedVersion = kind then checkVersion c else []) ++
        (c.contexts.flatMap fun context =>
          (if .emptyContextName = kind then checkContextName context else []) ++
            (if .duplicateMessage = kind then checkDuplicates context.name [] context.messages
              else []) ++
            context.messages.flatMap fun m =>
              (if .emptySource = kind then checkSource context.name m else []) ++
                (if .missingText = kind then checkText context.name m else []) ++
                ofKind kind (checkTexts c.languageCode context.name m)) ++
        if .roundTripLoss = kind then roundTrip c else [] := by
  have hname : ∀ context, ofKind kind (checkContextName context) = _ :=
    fun _ => ofKind_eq_ite fun _ => kind_checkContextName
  have hduplicates : ∀ name ms, ofKind kind (checkDuplicates name [] ms) = _ :=
    fun _ _ => ofKind_eq_ite fun _ => kind_checkDuplicates
  have hsource : ∀ name m, ofKind kind (checkSource name m) = _ :=
    fun _ _ => ofKind_eq_ite fun _ => kind_checkSource
  have htext : ∀ name m, ofKind kind (checkText name m) = _ :=
    fun _ _ => ofKind_eq_ite fun _ => kind_checkText
  rw [validate_eq, checkContent, ofKind_append, ofKind_append, ofKind_append,
    ofKind_eq_ite fun _ => kind_checkLanguage, ofKind_eq_ite fun _ => kind_checkVersion,
    ofKind_eq_ite fun _ => kind_roundTrip]
  simp only [ofKind_flatMap, ofKind_append, checkContext, checkMessage, hname, hduplicates, hsource,
    htext]

/-- The findings of a kind that is an error are those of the checks that find errors. -/
theorem ofKind_validate_of_error {kind : IssueKind} (hk : kind.severity = .error) (c : Catalog) :
    ofKind kind (validate c) =
      (c.contexts.flatMap fun context =>
        (if .emptyContextName = kind then checkContextName context else []) ++
          (if .duplicateMessage = kind then checkDuplicates context.name [] context.messages
            else []) ++
          context.messages.flatMap fun m =>
            (if .emptySource = kind then checkSource context.name m else []) ++
              if .missingText = kind then checkText context.name m else []) ++
        if .roundTripLoss = kind then roundTrip c else [] := by
  have hlanguage : IssueKind.unknownLanguage ≠ kind := by
    rintro rfl
    cases hk
  have hversion : IssueKind.unsupportedVersion ≠ kind := by
    rintro rfl
    cases hk
  rw [ofKind_validate, if_neg hlanguage, if_neg hversion]
  simp only [List.nil_append, ofKind_checkTexts hk, List.append_nil]

/-- What is done with every message is done with every entry. -/
theorem flatMap_entries {α : Type} (c : Catalog) (f : String → Message → List α) :
    (c.contexts.flatMap fun context => context.messages.flatMap (f context.name)) =
      c.entries.flatMap fun e => f e.1 e.2 := by
  simp only [Catalog.entries, List.flatMap_assoc, List.flatMap_map]

theorem emptySources (c : Catalog) :
    ofKind .emptySource (validate c) = c.entries.flatMap fun e => checkSource e.1 e.2 := by
  rw [ofKind_validate_of_error rfl, ← flatMap_entries]
  simp

theorem missingTexts (c : Catalog) :
    ofKind .missingText (validate c) = c.entries.flatMap fun e => checkText e.1 e.2 := by
  rw [ofKind_validate_of_error rfl, ← flatMap_entries]
  simp

theorem emptyContextNames (c : Catalog) :
    ofKind .emptyContextName (validate c) = c.contexts.flatMap checkContextName := by
  rw [ofKind_validate_of_error rfl]
  simp [flatMap_nil]

theorem duplicateMessages (c : Catalog) :
    ofKind .duplicateMessage (validate c) =
      c.contexts.flatMap fun context => checkDuplicates context.name [] context.messages := by
  rw [ofKind_validate_of_error rfl]
  simp [flatMap_nil]

theorem roundTripLosses (c : Catalog) :
    ofKind .roundTripLoss (validate c) = (c.entries.filter (¬·.2.IsShaped)).map lossIssue := by
  rw [ofKind_validate_of_error rfl, roundTrip_eq]
  simp

/-! ## Catalogs without errors -/

/-- No finding in the catalog is an error. -/
def HasNoError (c : Catalog) : Prop :=
  ∀ i ∈ validate c, i.severity ≠ .error

/-- A catalog in which every context has a name and distinct keys, and every message a source and a
target in shape. -/
structure IsWellFormed (c : Catalog) : Prop where
  names : ∀ context ∈ c.contexts, Text.isAllBlank context.name.toList = false
  keys : ∀ context ∈ c.contexts, (context.messages.map (·.key)).Nodup
  sources : ∀ e ∈ c.entries, e.2.source ≠ ""
  shapes : c.IsShaped

/-- A well-formed catalog in which every finished message has all its text. -/
structure IsValid (c : Catalog) : Prop extends IsWellFormed c where
  texts : ∀ e ∈ c.entries, e.2.status = .finished → e.2.target.isComplete = true

instance (c : Catalog) : Decidable (IsValid c) :=
  decidable_of_iff
    ((∀ context ∈ c.contexts, Text.isAllBlank context.name.toList = false) ∧
      (∀ context ∈ c.contexts, (context.messages.map (·.key)).Nodup) ∧
      (∀ e ∈ c.entries, e.2.source ≠ "") ∧ c.IsShaped ∧
      ∀ e ∈ c.entries, e.2.status = .finished → e.2.target.isComplete = true)
    ⟨fun h => ⟨⟨h.1, h.2.1, h.2.2.1, h.2.2.2.1⟩, h.2.2.2.2⟩,
      fun h => ⟨h.names, h.keys, h.sources, h.shapes, h.texts⟩⟩

/-- No message repeats a key when the keys are distinct and none has been seen before. -/
theorem checkDuplicates_eq_nil_iff {name : String} {seen : List Key} {ms : List Message} :
    checkDuplicates name seen ms = [] ↔
      (ms.map (·.key)).Nodup ∧ ∀ m ∈ ms, m.key ∉ seen := by
  induction ms generalizing seen with
  | nil => simp [checkDuplicates]
  | cons m ms ih =>
    unfold checkDuplicates
    split
    · next hs => simp_all
    · next hs =>
      rw [ih]
      simp only [List.map_cons, List.nodup_cons, List.mem_cons, List.mem_map, forall_eq_or_imp]
      grind

theorem emptySources_eq_nil_iff {c : Catalog} :
    ofKind .emptySource (validate c) = [] ↔ ∀ e ∈ c.entries, e.2.source ≠ "" := by
  simp [emptySources, List.flatMap_eq_nil_iff, checkSource]

theorem missingTexts_eq_nil_iff {c : Catalog} :
    ofKind .missingText (validate c) = [] ↔
      ∀ e ∈ c.entries, e.2.status = .finished → e.2.target.isComplete = true := by
  simp [missingTexts, List.flatMap_eq_nil_iff, checkText]

theorem emptyContextNames_eq_nil_iff {c : Catalog} :
    ofKind .emptyContextName (validate c) = [] ↔
      ∀ context ∈ c.contexts, Text.isAllBlank context.name.toList = false := by
  simp [emptyContextNames, List.flatMap_eq_nil_iff, checkContextName]

theorem duplicateMessages_eq_nil_iff {c : Catalog} :
    ofKind .duplicateMessage (validate c) = [] ↔
      ∀ context ∈ c.contexts, (context.messages.map (·.key)).Nodup := by
  simp [duplicateMessages, List.flatMap_eq_nil_iff, checkDuplicates_eq_nil_iff]

theorem roundTripLosses_eq_nil_iff {c : Catalog} :
    ofKind .roundTripLoss (validate c) = [] ↔ c.IsShaped := by
  simp [roundTripLosses, Catalog.IsShaped]

/-- Only a text can be an error of a well-formed catalog. -/
theorem isWellFormed_iff {c : Catalog} :
    (∀ i ∈ validate c, i.severity = .error → i.kind = .missingText) ↔ IsWellFormed c := by
  constructor
  · intro h
    have hnil : ∀ kind : IssueKind, kind.severity = .error → kind ≠ .missingText →
        ofKind kind (validate c) = [] := by
      intro kind hk hne
      rw [ofKind_eq_nil_iff]
      rintro i hi rfl
      exact hne (h i hi hk)
    exact {
      names := emptyContextNames_eq_nil_iff.1 (hnil _ rfl (by decide))
      keys := duplicateMessages_eq_nil_iff.1 (hnil _ rfl (by decide))
      sources := emptySources_eq_nil_iff.1 (hnil _ rfl (by decide))
      shapes := roundTripLosses_eq_nil_iff.1 (hnil _ rfl (by decide)) }
  · intro h i hi hs
    rw [Issue.severity] at hs
    cases hk : i.kind with
    | missingText => rfl
    | emptySource =>
      exact absurd hk (ofKind_eq_nil_iff.1 (emptySources_eq_nil_iff.2 h.sources) i hi)
    | duplicateMessage =>
      exact absurd hk (ofKind_eq_nil_iff.1 (duplicateMessages_eq_nil_iff.2 h.keys) i hi)
    | emptyContextName =>
      exact absurd hk (ofKind_eq_nil_iff.1 (emptyContextNames_eq_nil_iff.2 h.names) i hi)
    | roundTripLoss =>
      exact absurd hk (ofKind_eq_nil_iff.1 (roundTripLosses_eq_nil_iff.2 h.shapes) i hi)
    | _ =>
      rw [hk] at hs
      cases hs

/-- The errors are found that keep a catalog from being valid, and no others. -/
theorem hasNoError_iff {c : Catalog} : HasNoError c ↔ IsValid c := by
  constructor
  · intro h
    have hw : IsWellFormed c := isWellFormed_iff.1 fun i hi hs => absurd hs (h i hi)
    exact { hw with texts := missingTexts_eq_nil_iff.1 (ofKind_eq_nil h rfl) }
  · intro h i hi hs
    have hk : i.kind = .missingText := isWellFormed_iff.2 h.toIsWellFormed i hi hs
    exact ofKind_eq_nil_iff.1 (missingTexts_eq_nil_iff.2 h.texts) i hi hk

end MessageCatalog.Check
