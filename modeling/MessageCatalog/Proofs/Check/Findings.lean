import MessageCatalog.Proofs.Check.Errors
import MessageCatalog.Proofs.Lists
import Mathlib.Data.Finset.Card
import Mathlib.Data.List.Dedup

/-!
# Exactly the errors there are

The findings that are errors are told from the data of a catalog alone (`Describes`): which messages
lack a source or a text, which repeat a key (`repeats`), which contexts have no name and which
messages do not survive being written. So a catalog has no error exactly when there are none of
these and it reads back as it was written.
-/

namespace MessageCatalog.Check

/-! ## Messages that repeat a key -/

/-- The messages whose key an earlier message has. -/
def repeats (ms : List Message) : List Message :=
  (ms.zipIdx.filter fun (m, i) => m.key ∈ (ms.take i).map (·.key)).map (·.1)

/-- A message is found when its key has been seen, or when an earlier message has it. -/
theorem checkDuplicates_eq_map (name : String) (seen : List Key) (ms : List Message) :
    checkDuplicates name seen ms =
      (ms.zipIdx.filter fun (m, i) => m.key ∈ seen ++ (ms.take i).map (·.key)).map
        (duplicateIssue name ·.1) := by
  induction ms generalizing seen with
  | nil => rfl
  | cons m ms ih =>
    -- The later messages, whose places are counted from the first one on.
    have hlater : ∀ seen' : List Key, (∀ key, key ∈ seen' ↔ key ∈ seen ∨ key = m.key) →
        checkDuplicates name seen' ms =
          ((ms.zipIdx 1).filter fun (m', i) =>
            m'.key ∈ seen ++ ((m :: ms).take i).map (·.key)).map (duplicateIssue name ·.1) := by
      intro seen' hs
      rw [ih, List.zipIdx_succ, List.filter_map, List.map_map]
      congr 1
      refine List.filter_congr fun e _ => ?_
      simp [hs, or_assoc]
    rw [checkDuplicates, List.zipIdx_cons, List.filter_cons]
    by_cases hm : m.key ∈ seen
    · have hs : ∀ key, key ∈ seen ↔ key ∈ seen ∨ key = m.key := by
        intro key
        constructor
        · exact .inl
        · rintro (h | rfl)
          · exact h
          · exact hm
      simp [hm, hlater seen hs]
    · have hs : ∀ key, key ∈ m.key :: seen ↔ key ∈ seen ∨ key = m.key := by
        simp [or_comm]
      simp [hm, hlater _ hs]

theorem checkDuplicates_nil (name : String) (ms : List Message) :
    checkDuplicates name [] ms = (repeats ms).map (duplicateIssue name) := by
  rw [checkDuplicates_eq_map, repeats, List.map_map]
  rfl

/-- Every message repeats a key or is the first one with a key that has not been seen. -/
theorem length_checkDuplicates (name : String) (seen : List Key) (ms : List Message) :
    (checkDuplicates name seen ms).length +
      ((ms.map (·.key)).toFinset \ seen.toFinset).card = ms.length := by
  induction ms generalizing seen with
  | nil => simp [checkDuplicates]
  | cons m ms ih =>
    rw [checkDuplicates, List.map_cons, List.toFinset_cons]
    by_cases hm : m.key ∈ seen
    · rw [if_pos (List.contains_iff_mem.2 hm), List.length_cons, List.length_cons,
        Finset.insert_sdiff_of_mem _ (List.mem_toFinset.2 hm), ← ih seen]
      omega
    · have hnew : m.key ∉ (ms.map (·.key)).toFinset \ (m.key :: seen).toFinset := by simp
      have hcard : (insert m.key (ms.map (·.key)).toFinset \ seen.toFinset).card =
          ((ms.map (·.key)).toFinset \ (m.key :: seen).toFinset).card + 1 := by
        rw [← Finset.card_insert_of_notMem hnew]
        congr 1
        ext key
        by_cases hk : key = m.key <;> simp [hk, hm]
      rw [if_neg (by simpa using hm), hcard, List.length_cons, ← ih (m.key :: seen)]
      omega

/-- The messages that repeat a key and the different keys are as many as the messages. -/
theorem length_repeats (ms : List Message) :
    (repeats ms).length + (ms.map (·.key)).dedup.length = ms.length := by
  have h := length_checkDuplicates "" [] ms
  rwa [checkDuplicates_nil, List.length_map, List.toFinset_nil, Finset.sdiff_empty,
    List.card_toFinset] at h

/-! ## One finding for one fault -/

/-- The finding for a message without a source. -/
def emptySourceIssue (e : String × Message) : Issue where
  kind := .emptySource
  context := e.1
  detail := "message has an empty source string"

/-- The finding for a finished message that lacks text. -/
def missingTextIssue (e : String × Message) : Issue where
  kind := .missingText
  context := e.1
  source := some e.2.source
  detail := "entry is marked finished but has no translation text"

/-- The finding for a context without a name. -/
def emptyContextNameIssue (c : Context) : Issue where
  kind := .emptyContextName
  context := c.name
  detail := s!"context with {c.messages.length} messages has no name"

/-- A target lacks text when it has no form or a form without text. -/
theorem isComplete_eq_false_iff {t : Target} :
    t.isComplete = false ↔ t.forms = [] ∨ "" ∈ t.forms := by
  rw [Target.isComplete]
  cases t.forms with
  | nil => simp
  | cons form forms => simp [or_iff_not_imp_left]

/-- The errors among some findings are those that a catalog gives reason for, each of them once and
in the order of the catalog. -/
structure Describes (c : Catalog) (issues : List Issue) : Prop where
  /-- Messages whose source is empty. -/
  emptySources : ofKind .emptySource issues =
    (c.entries.filter fun e => e.2.source = "").map emptySourceIssue
  /-- Messages that repeat a key, context by context. -/
  duplicates : ofKind .duplicateMessage issues =
    c.contexts.flatMap fun context => (repeats context.messages).map (duplicateIssue context.name)
  /-- Finished messages without any form, or with a form that has no text. -/
  missingTexts : ofKind .missingText issues =
    (c.entries.filter fun e =>
      e.2.status = .finished ∧ (e.2.target.forms = [] ∨ "" ∈ e.2.target.forms)).map missingTextIssue
  /-- Contexts whose name is blank. -/
  emptyContextNames : ofKind .emptyContextName issues =
    (c.contexts.filter fun context => Text.isAllBlank context.name.toList).map emptyContextNameIssue
  /-- Messages whose target does not have the shape that the message needs. -/
  losses : ofKind .roundTripLoss issues = (c.entries.filter (¬·.2.IsShaped)).map lossIssue

theorem describes_validate (c : Catalog) : Describes c (validate c) where
  emptySources := by
    rw [Check.emptySources, ← flatMap_ite]
    rfl
  duplicates := by simp only [duplicateMessages, checkDuplicates_nil]
  missingTexts := by
    rw [Check.missingTexts, ← flatMap_ite]
    refine List.flatMap_congr fun e _ => ?_
    simp [checkText, isComplete_eq_false_iff, missingTextIssue]
  emptyContextNames := by
    rw [Check.emptyContextNames]
    have h := flatMap_ite (fun context : Context => Text.isAllBlank context.name.toList = true)
      emptyContextNameIssue c.contexts
    simp only [Bool.decide_eq_true] at h
    rw [← h]
    rfl
  losses := roundTripLosses c

/-- The findings are exact: of every kind that is an error there is one for every place in the
catalog that has the fault, and a context has as many repeated messages as it has messages beyond
its different keys. So nothing found is an error exactly when every message has a source, every
context a name and distinct keys, every finished message all its text, and the catalog reads back
as it was written. -/
theorem validate_exact (c : Catalog) :
    Describes c (validate c) ∧
      (∀ context : Context, (repeats context.messages).length +
        (context.messages.map (·.key)).dedup.length = context.messages.length) ∧
      (HasNoError c ↔
        (∀ e ∈ c.entries, e.2.source ≠ "") ∧
        (∀ context ∈ c.contexts, Text.isAllBlank context.name.toList = false) ∧
        (∀ context ∈ c.contexts, (context.messages.map (·.key)).Nodup) ∧
        (∀ e ∈ c.entries, e.2.status = .finished → e.2.target.isComplete = true) ∧
        Catalog.parse c.print = .ok c) := by
  have hprint : Catalog.parse c.print = .ok c ↔ c.IsShaped := by
    rw [Catalog.parse_print, Except.ok.injEq, Catalog.shaped_eq_self_iff]
  refine ⟨describes_validate c, fun context => length_repeats context.messages, ?_⟩
  rw [hasNoError_iff, hprint]
  constructor
  · intro h
    exact ⟨h.sources, h.names, h.keys, h.texts, h.shapes⟩
  · rintro ⟨hsources, hnames, hkeys, htexts, hshapes⟩
    exact {
      sources := hsources
      names := hnames
      keys := hkeys
      texts := htexts
      shapes := hshapes }

end MessageCatalog.Check
