import MessageCatalog.Proofs.Merge.Settlement

/-!
# Retiring the messages that a template does not have

Of the messages of a context those are left that the template does not know and that have text,
unless retired messages are dropped (`retire_fst`). What has been retired once is retired as itself,
and the messages of the template in front of it do not matter (`retire_again`).
-/

namespace MessageCatalog

/-- The message when it is no longer in use. -/
def Message.retired (m : Message) : Message :=
  { m with status := Merge.retiredStatus m.status }

namespace Merge

/-! ## Statuses -/

theorem retiredStatus_retiredStatus (s : Status) :
    retiredStatus (retiredStatus s) = retiredStatus s := by
  cases s <;> rfl

theorem retiredSummary_retiredStatus (s : Status) : retiredSummary (retiredStatus s) = {} := by
  cases s <;> rfl

theorem retired_retired (m : Message) : m.retired.retired = m.retired := by
  simp only [Message.retired, retiredStatus_retiredStatus]

@[simp] theorem key_retired (m : Message) : m.retired.key = m.key := rfl

@[simp] theorem target_retired (m : Message) : m.retired.target = m.target := rfl

section Retire
variable (template : Catalog) (options : Options) (name : String)

/-- The message is left in its context when the template is merged. -/
def stays (m : Message) : Bool :=
  !inTemplate template name m.key && !(options.dropObsolete || m.target.isEmpty)

@[simp] theorem stays_retired (m : Message) :
    stays template options name m.retired = stays template options name m := rfl

variable {template options name}

theorem not_inTemplate_of_stays {m : Message} (h : stays template options name m = true) :
    inTemplate template name m.key = false := by
  simp only [stays, Bool.and_eq_true, Bool.not_eq_true'] at h
  exact h.1

/-! ## What is left -/

theorem retire_nil (live : List Key) : retire template options name live [] = ([], {}) := rfl

/-- What is done with a message: it is passed over, dropped or retired. -/
theorem retire_cons (live : List Key) (m : Message) (rest : List Message) :
    retire template options name live (m :: rest) =
      if inTemplate template name m.key then
        ((retire template options name (m.key :: live) rest).1,
          if live.contains m.key then
            Summary.add { dropped := 1 } (retire template options name (m.key :: live) rest).2
          else (retire template options name (m.key :: live) rest).2)
      else if options.dropObsolete || m.target.isEmpty then
        ((retire template options name live rest).1,
          Summary.add { dropped := 1 } (retire template options name live rest).2)
      else
        (m.retired :: (retire template options name live rest).1,
          (retiredSummary m.status).add (retire template options name live rest).2) := rfl

/-- A message of the template is passed over, and dropped if one with its key went before. -/
theorem retire_cons_live {m : Message} (h : inTemplate template name m.key = true)
    (live : List Key) (rest : List Message) :
    retire template options name live (m :: rest) =
      ((retire template options name (m.key :: live) rest).1,
        if live.contains m.key then
          Summary.add { dropped := 1 } (retire template options name (m.key :: live) rest).2
        else (retire template options name (m.key :: live) rest).2) := by
  rw [retire_cons, if_pos h]

/-- A message that stays is retired. -/
theorem retire_cons_stays {m : Message} (h : stays template options name m = true)
    (live : List Key) (rest : List Message) :
    retire template options name live (m :: rest) =
      (m.retired :: (retire template options name live rest).1,
        (retiredSummary m.status).add (retire template options name live rest).2) := by
  simp only [stays, Bool.and_eq_true, Bool.not_eq_true'] at h
  rw [retire_cons, if_neg (by simp [h.1]), if_neg (by simp [h.2])]

/-- Any other message is dropped. -/
theorem retire_cons_dropped {m : Message} (hi : inTemplate template name m.key = false)
    (h : stays template options name m = false) (live : List Key) (rest : List Message) :
    retire template options name live (m :: rest) =
      ((retire template options name live rest).1,
        Summary.add { dropped := 1 } (retire template options name live rest).2) := by
  rw [stays, hi, Bool.not_false, Bool.true_and, Bool.not_eq_false'] at h
  rw [retire_cons, if_neg (by simp [hi]), if_pos h]

/-- What is left does not depend on the messages that are in use. -/
theorem retire_fst (live : List Key) (ms : List Message) :
    (retire template options name live ms).1 =
      (ms.filter (stays template options name)).map Message.retired := by
  induction ms generalizing live with
  | nil => rfl
  | cons m ms ih =>
    cases hs : stays template options name m with
    | true => rw [retire_cons_stays hs, List.filter_cons_of_pos hs, List.map_cons, ih]
    | false =>
      rw [List.filter_cons_of_neg (by simp [hs])]
      cases hi : inTemplate template name m.key with
      | true => rw [retire_cons_live hi, ih]
      | false => rw [retire_cons_dropped hi hs, ih]

theorem mem_retire {live : List Key} {ms : List Message} {m : Message} :
    m ∈ (retire template options name live ms).1 ↔
      ∃ old ∈ ms, stays template options name old = true ∧ old.retired = m := by
  simp only [retire_fst, List.mem_map, List.mem_filter, and_assoc]

/-! ## Retiring again -/

/-- The messages of the template, each once, are passed over. -/
theorem retire_live_append {live : List Key} {ms : List Message} (rest : List Message)
    (hi : ∀ m ∈ ms, inTemplate template name m.key = true) (hd : (ms.map (·.key)).Nodup)
    (hl : ∀ m ∈ ms, m.key ∉ live) :
    retire template options name live (ms ++ rest) =
      retire template options name ((ms.map (·.key)).reverse ++ live) rest := by
  induction ms generalizing live with
  | nil => rfl
  | cons m ms ih =>
    simp only [List.map_cons, List.nodup_cons, List.mem_map, not_exists, not_and] at hd
    have hm : live.contains m.key = false := by simpa using hl m List.mem_cons_self
    rw [List.cons_append, retire_cons_live (hi m List.mem_cons_self), hm]
    simp only [Bool.false_eq_true, if_false]
    rw [ih (fun a ha => hi a (List.mem_cons_of_mem _ ha)) hd.2]
    · simp
    · -- The key that has become live is not one of the others.
      intro a ha
      have hne : a.key ≠ m.key := fun h => hd.1 a ha h
      simp [hne, hl a (List.mem_cons_of_mem _ ha)]

/-- Messages that stay and are retired already are left as they are. -/
theorem retire_retired {ms : List Message} (hs : ∀ m ∈ ms, stays template options name m = true)
    (hr : ∀ m ∈ ms, ∃ m' : Message, m'.retired = m) (live : List Key) :
    retire template options name live ms = (ms, {}) := by
  induction ms with
  | nil => rfl
  | cons m ms ih =>
    obtain ⟨m', rfl⟩ := hr m List.mem_cons_self
    rw [retire_cons_stays (hs _ List.mem_cons_self),
      ih (fun a ha => hs a (List.mem_cons_of_mem _ ha))
        fun a ha => hr a (List.mem_cons_of_mem _ ha)]
    simp only [retired_retired]
    rw [Message.retired, retiredSummary_retiredStatus, Summary.zero_add]

/-- What is left of some messages, behind messages of the template, is left again. -/
theorem retire_again {settled : List Message}
    (hi : ∀ m ∈ settled, inTemplate template name m.key = true)
    (hd : (settled.map (·.key)).Nodup) (live : List Key) (ms : List Message) :
    retire template options name [] (settled ++ (retire template options name live ms).1) =
      ((retire template options name live ms).1, {}) := by
  rw [retire_live_append _ hi hd (by simp)]
  apply retire_retired
  · intro m hm
    obtain ⟨m', -, hs, rfl⟩ := mem_retire.1 hm
    rw [stays_retired, hs]
  · intro m hm
    obtain ⟨m', -, -, rfl⟩ := mem_retire.1 hm
    exact ⟨m', rfl⟩

end Retire

end Merge
end MessageCatalog
