import Mathlib.Data.List.Induction
import MessageCatalog.Progress.Overview
import MessageCatalog.Proofs.Check.Errors
import MessageCatalog.Proofs.Rounding
import MessageCatalog.Proofs.Total

/-!
# The numbers of an overview

The numbers of an overview are those of the messages of its catalog, whether they are counted all
at once, context by context or in one go through the file (`Tally`), and what is finished but not
translated is what a check of the catalog misses a text in (`addsUp_ofCatalog`).
-/

namespace MessageCatalog.Progress

open Check

/-! ## Counting one message after the other -/

/-- How many messages have a status. -/
def Counts.get (c : Counts) : Status → Nat
  | .finished => c.finished
  | .unfinished => c.unfinished
  | .vanished => c.vanished
  | .obsolete => c.obsolete

/-- One more message with a status. -/
def Counts.record (c : Counts) : Status → Counts
  | .finished => { c with finished := c.finished + 1 }
  | .unfinished => { c with unfinished := c.unfinished + 1 }
  | .vanished => { c with vanished := c.vanished + 1 }
  | .obsolete => { c with obsolete := c.obsolete + 1 }

/-- What has been counted so far. -/
structure Tally where
  counts : Counts := {}
  translated : Nat := 0
  numerus : Nat := 0

namespace Tally

/-- Count one more message. -/
def record (t : Tally) (m : Message) : Tally where
  counts := t.counts.record m.status
  translated := if m.isTranslated then t.translated + 1 else t.translated
  numerus := if m.numerus then t.numerus + 1 else t.numerus

def ofMessages (messages : List Message) : Tally :=
  messages.foldl record {}

/-- Both tallies together. -/
def add (a b : Tally) : Tally where
  counts := a.counts.add b.counts
  translated := a.translated + b.translated
  numerus := a.numerus + b.numerus

/-- Count the messages of one context after the other. -/
def ofContexts (contexts : List Context) : Tally :=
  contexts.foldl (fun t context => t.add (ofMessages context.messages)) {}

/-- A message more is counted when all others have been. -/
theorem record_ofMessages (messages : List Message) (m : Message) :
    record ⟨Counts.ofMessages messages, countTranslated messages, countNumerus messages⟩ m =
      ⟨Counts.ofMessages (messages ++ [m]), countTranslated (messages ++ [m]),
        countNumerus (messages ++ [m])⟩ := by
  have hcounts : (Counts.ofMessages messages).record m.status =
      Counts.ofMessages (messages ++ [m]) := by
    rw [Counts.ofMessages_append]
    cases h : m.status <;> simp [Counts.record, Counts.add, Counts.ofMessages, countStatus, h]
  simp only [record, hcounts, countTranslated, countNumerus, List.countP_append,
    List.countP_singleton]
  split <;> split <;> rfl

theorem ofMessages_eq (messages : List Message) :
    ofMessages messages =
      ⟨Counts.ofMessages messages, countTranslated messages, countNumerus messages⟩ := by
  induction messages using List.reverseRecOn with
  | nil => rfl
  | append_singleton messages m ih =>
    rw [ofMessages, List.foldl_concat, ← ofMessages, ih, record_ofMessages]

/-- Going through the contexts counts all messages that stand in them. -/
theorem ofContexts_eq (contexts : List Context) :
    ofContexts contexts = ofMessages (contexts.flatMap (·.messages)) := by
  induction contexts using List.reverseRecOn with
  | nil => rfl
  | append_singleton contexts context ih =>
    have hone : [context].flatMap (·.messages) = context.messages := List.append_nil _
    rw [ofContexts, List.foldl_concat, ← ofContexts, ih, List.flatMap_append, hone]
    simp only [ofMessages_eq, add, Counts.ofMessages_append, countTranslated, countNumerus,
      List.countP_append]

end Tally

/-! ## Parts and the whole -/

section Parts
variable (messages : List Message)

/-- What is counted in all messages is the total of what is counted in each context. -/
theorem countP_flatMap_messages (p : Message → Bool) (contexts : List Context) :
    (contexts.flatMap (·.messages)).countP p = total (contexts.map (·.messages.countP p)) := by
  simp only [List.countP_eq_length_filter, List.filter_flatMap, length_flatMap]

/-- The messages of a catalog, without the names of their contexts. -/
theorem map_snd_entries (c : Catalog) :
    c.entries.map Prod.snd = c.contexts.flatMap (·.messages) := by
  simp only [Catalog.entries, List.map_flatMap, List.map_map, Function.comp_def, List.map_id']

theorem countP_entries (p : Message → Bool) (c : Catalog) :
    c.entries.countP (fun e => p e.2) = (c.contexts.flatMap (·.messages)).countP p := by
  rw [← map_snd_entries, List.countP_map]
  rfl

theorem get_ofMessages (s : Status) :
    (Counts.ofMessages messages).get s = messages.countP (·.status = s) := by
  cases s <;> rfl

theorem active_ofMessages : (Counts.ofMessages messages).active = messages.countP (·.isActive) := by
  induction messages with
  | nil => rfl
  | cons m messages ih =>
    rw [List.countP_cons, ← ih, Message.isActive]
    simp only [Counts.active, Counts.ofMessages, countStatus, List.countP_cons]
    cases m.status <;> simp [Status.isActive] <;> omega

theorem status_of_isTranslated {m : Message} (h : m.isTranslated = true) :
    m.status = .finished := by
  rw [Message.isTranslated, Bool.and_eq_true, decide_eq_true_iff] at h
  exact h.1

theorem isActive_of_isTranslated {m : Message} (h : m.isTranslated = true) : m.isActive = true := by
  rw [Message.isActive, status_of_isTranslated h]
  rfl

/-- All messages in use are translated when as many are translated as are in use. -/
theorem countTranslated_eq_active_iff :
    countTranslated messages = (Counts.ofMessages messages).active ↔
      ∀ m ∈ messages, m.isActive = true → m.isTranslated = true := by
  have hactive : countTranslated messages =
      (messages.filter (·.isActive)).countP (·.isTranslated) := by
    rw [List.countP_filter]
    refine List.countP_congr fun m _ => ?_
    rw [Bool.and_eq_true]
    exact ⟨fun h => ⟨h, isActive_of_isTranslated h⟩, And.left⟩
  rw [hactive, active_ofMessages, List.countP_eq_length_filter (p := fun m : Message => m.isActive),
    List.countP_eq_length]
  simp only [List.mem_filter, and_imp]

/-- What is translated, what is finished, what is in use and all there is, each within the next. -/
def IsNested (translated : Nat) (counts : Counts) : Prop :=
  translated ≤ counts.finished ∧ counts.finished ≤ counts.active ∧ counts.active ≤ counts.total

theorem isNested_ofMessages : IsNested (countTranslated messages) (.ofMessages messages) := by
  refine ⟨countTranslated_le messages, Nat.le_add_right _ _, ?_⟩
  rw [Counts.total, Nat.add_assoc]
  exact Nat.le_add_right _ _

end Parts

/-! ## Texts that are missing -/

/-- A message is found to miss a text when it is finished and not translated. -/
theorem length_checkText (name : String) (m : Message) :
    (checkText name m).length = if m.status = .finished ∧ ¬m.isTranslated then 1 else 0 := by
  unfold checkText
  by_cases hs : m.status = .finished <;> by_cases ht : m.target.isComplete = true <;>
    simp [Message.isTranslated, hs, ht]

/-- What is finished is translated or misses a text. -/
theorem translated_add_missing (c : Catalog) :
    (Overview.ofCatalog c).translated + (ofKind .missingText (validate c)).length =
      (Overview.ofCatalog c).counts.finished := by
  have hmissing : (ofKind .missingText (validate c)).length =
      (c.contexts.flatMap (·.messages)).countP fun m => m.status = .finished ∧ ¬m.isTranslated := by
    rw [missingTexts, length_flatMap, ← countP_entries]
    exact total_eq_countP fun e _ => by simpa using length_checkText e.1 e.2
  have hsplit := List.countP_eq_countP_filter_add (c.contexts.flatMap (·.messages))
    (fun m => decide (m.status = .finished)) (fun m => m.isTranslated)
  have htranslated : (c.contexts.flatMap (·.messages)).countP (fun m =>
      decide (m.status = .finished) && m.isTranslated) =
        (Overview.ofCatalog c).translated := by
    refine List.countP_congr fun m _ => ?_
    rw [Bool.and_eq_true, decide_eq_true_iff]
    exact ⟨And.right, fun h => ⟨status_of_isTranslated h, h⟩⟩
  rw [List.countP_filter, List.countP_filter, htranslated] at hsplit
  rw [hmissing]
  refine Eq.trans (congrArg _ (List.countP_congr fun m _ => ?_)) hsplit.symm
  simp

/-! ## Shares -/

/-- The share of the messages in use that are translated, before it is rounded. -/
def Overview.share (o : Overview) : ℚ :=
  if o.counts.active = 0 then 1 else o.translated / o.counts.active

section Share
variable {o : Overview}

theorem share_le (h : o.translated ≤ o.counts.active) : o.share ≤ 1 := by
  unfold Overview.share
  split
  · exact le_rfl
  · exact div_le_one_of_le₀ (Nat.cast_le.2 h) (Nat.cast_nonneg _)

theorem share_eq_one_iff (h : o.translated ≤ o.counts.active) :
    o.share = 1 ↔ o.translated = o.counts.active := by
  unfold Overview.share
  split
  · next hzero => exact ⟨fun _ => by omega, fun _ => rfl⟩
  · next hpos => rw [div_eq_one_iff_eq (Nat.cast_ne_zero.2 hpos), Nat.cast_inj]

theorem completion_near (h : o.translated ≤ o.counts.active) :
    |o.completion.value - o.share| ≤ 1 / 2 ^ (Text.BinaryFraction.width + 1) := by
  unfold Overview.completion Overview.share
  split
  · exact_mod_cast Text.BinaryFraction.value_ofQuotient_near Nat.one_pos (Nat.le_refl 1)
  · next hpos => exact Text.BinaryFraction.value_ofQuotient_near (Nat.pos_of_ne_zero hpos) h

theorem completion_le (h : o.translated ≤ o.counts.active) : o.completion.value ≤ 1 := by
  unfold Overview.completion
  split
  · exact (Text.BinaryFraction.value_ofQuotient_self Nat.one_pos).le
  · next hpos => exact Text.BinaryFraction.value_ofQuotient_le (Nat.pos_of_ne_zero hpos) h

theorem completion_of_eq (h : o.translated = o.counts.active) : o.completion.value = 1 := by
  unfold Overview.completion
  split
  · exact Text.BinaryFraction.value_ofQuotient_self Nat.one_pos
  · next hpos =>
    rw [h]
    exact Text.BinaryFraction.value_ofQuotient_self (Nat.pos_of_ne_zero hpos)

theorem eq_of_completion (h : o.translated ≤ o.counts.active)
    (hwidth : o.counts.active ≤ 2 ^ Text.BinaryFraction.width) (hone : o.completion.value = 1) :
    o.translated = o.counts.active := by
  unfold Overview.completion at hone
  split at hone
  · next hzero => omega
  · next hpos =>
    have hpos := Nat.pos_of_ne_zero hpos
    exact (Text.BinaryFraction.value_ofQuotient_eq_one_iff hpos h hwidth).1 hone

end Share

/-! ## Overviews -/

/-- Every message in use is translated. -/
def IsComplete (c : Catalog) : Prop :=
  ∀ e ∈ c.entries, e.2.isActive = true → e.2.isTranslated = true

/-- The numbers of an overview are those of the messages of a catalog. -/
structure Overview.AddsUp (o : Overview) (c : Catalog) : Prop where
  messages : o.messageCount = c.messageCount ∧ o.messageCount = c.entries.length
  /-- Every message has one status, and stands in one context. -/
  counted : o.counts.total = o.messageCount ∧
    total (o.contexts.map (·.counts.total)) = o.messageCount
  statuses : ∀ s, o.counts.get s = c.entries.countP (·.2.status = s) ∧
    o.counts.get s = total (o.contexts.map (·.counts.get s))
  translated : o.translated = c.entries.countP (·.2.isTranslated) ∧
    o.translated = total (o.contexts.map (·.translated))
  /-- Every context has numbers of its own, in the order of the file. -/
  contexts : List.Forall₂ (fun context p => p.name = context.name ∧
    (∀ s, p.counts.get s = context.messages.countP (·.status = s)) ∧
    p.translated = context.messages.countP (·.isTranslated)) c.contexts o.contexts
  /-- Counting one message after the other comes to the same. -/
  tally : Tally.ofContexts c.contexts = ⟨o.counts, o.translated, o.numerus⟩
  isNested : IsNested o.translated o.counts ∧ ∀ p ∈ o.contexts, IsNested p.translated p.counts
  /-- What is finished is translated, or is found to miss a text. -/
  missing : o.translated + (ofKind .missingText (validate c)).length = o.counts.finished
  /-- The share of what is translated is at most one, and one for a complete catalog alone. -/
  share : o.share ≤ 1 ∧ (o.share = 1 ↔ IsComplete c)
  /-- The share that is kept is rounded from it, and still at most one. It is one for a complete
  catalog, and for no other as long as a binary fraction can hold the number of messages in use. -/
  completion : |o.completion.value - o.share| ≤ 1 / 2 ^ (Text.BinaryFraction.width + 1) ∧
    o.completion.value ≤ 1 ∧ (IsComplete c → o.completion.value = 1) ∧
    (o.counts.active ≤ 2 ^ Text.BinaryFraction.width → o.completion.value = 1 → IsComplete c)

/-- The numbers of an overview add up over the contexts and are those of the messages, and the
finished messages that are not translated are those a check finds to miss a text. So the share of
what is translated is at most one, and one for a complete catalog alone. -/
theorem addsUp_ofCatalog (c : Catalog) : (Overview.ofCatalog c).AddsUp c := by
  have hcountP : ∀ p : Message → Bool, (c.contexts.flatMap (·.messages)).countP p =
      total (c.contexts.map (·.messages.countP p)) :=
    fun p => countP_flatMap_messages p c.contexts
  have hcomplete : (Overview.ofCatalog c).translated = (Overview.ofCatalog c).counts.active ↔
      IsComplete c := by
    refine (countTranslated_eq_active_iff _).trans ?_
    rw [← map_snd_entries, List.forall_mem_map]
    rfl
  have hle : (Overview.ofCatalog c).translated ≤ (Overview.ofCatalog c).counts.active :=
    (isNested_ofMessages _).1.trans (isNested_ofMessages _).2.1
  refine {
    messages := ⟨rfl, (Catalog.length_entries c).symm⟩
    counted := ⟨?_, ?_⟩
    statuses := fun s => ⟨?_, ?_⟩
    translated := ⟨(countP_entries _ c).symm, ?_⟩
    contexts := ?_
    tally := (Tally.ofContexts_eq _).trans (Tally.ofMessages_eq _)
    isNested := ⟨isNested_ofMessages _, ?_⟩
    missing := translated_add_missing c
    share := ⟨share_le hle, (share_eq_one_iff hle).trans hcomplete⟩
    completion := ⟨completion_near hle, completion_le hle,
      fun h => completion_of_eq (hcomplete.2 h),
      fun hwidth hone => hcomplete.1 (eq_of_completion hle hwidth hone)⟩ }
  · rw [Overview.ofCatalog, Counts.total_ofMessages, length_flatMap]
    rfl
  · simp only [Overview.ofCatalog, ContextProgress.ofContext, List.map_map, Function.comp_def,
      Counts.total_ofMessages]
    rfl
  · exact (get_ofMessages _ s).trans (countP_entries _ c).symm
  · simp only [Overview.ofCatalog, ContextProgress.ofContext, List.map_map, Function.comp_def,
      get_ofMessages, hcountP]
  · simp only [Overview.ofCatalog, ContextProgress.ofContext, List.map_map, Function.comp_def,
      countTranslated, hcountP]
  · exact List.forall₂_map_right_iff.2
      (List.forall₂_same.2 fun context _ => ⟨rfl, get_ofMessages _, rfl⟩)
  · exact List.forall_mem_map.2 fun context _ => isNested_ofMessages _

end MessageCatalog.Progress
