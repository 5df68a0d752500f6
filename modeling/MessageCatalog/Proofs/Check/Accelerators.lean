import Mathlib.Algebra.Ring.Parity
import Mathlib.Data.List.Basic
import MessageCatalog.Text.Marker

/-!
# Accelerators and runs of ampersands

Ampersands are read in pairs from the left, so what a run of them leads to depends on its parity: a
run of even length is read away, and of a run of odd length one ampersand is left for the character
behind it (`hasAccelerator_run`). Hence a text has an accelerator exactly when a run of odd length
stands in front of a letter or digit, and a text whose ampersands are doubled has none
(`hasAccelerator_parity`).
-/

namespace MessageCatalog.Text

/-! ## Reading a run -/

theorem hasAccelerator_pair (s : List Char) :
    hasAccelerator ('&' :: '&' :: s) = hasAccelerator s := by
  rw [hasAccelerator]

theorem hasAccelerator_cons {c : Char} (hc : c ≠ '&') (s : List Char) :
    hasAccelerator (c :: s) = hasAccelerator s := by
  rw [hasAccelerator] <;> simp [hc]

/-- An ampersand that is not in a pair makes an accelerator of a letter or digit. -/
theorem hasAccelerator_single {c : Char} (hc : c ≠ '&') (s : List Char) :
    hasAccelerator ('&' :: c :: s) = (isAlphanumeric c || hasAccelerator s) := by
  rw [hasAccelerator, hasAccelerator_cons hc]
  simpa using hc

/-- A run of ampersands is read in pairs, and one is left when their number is odd. -/
theorem hasAccelerator_run {c : Char} (hc : c ≠ '&') (behind : List Char) (k : Nat) :
    hasAccelerator (List.replicate k '&' ++ c :: behind) =
      (decide (Odd k) && isAlphanumeric c || hasAccelerator behind) := by
  induction k using Nat.twoStepInduction with
  | zero => simp [hasAccelerator_cons hc]
  | one => simp [hasAccelerator_single hc]
  | more k ih _ =>
    have hodd : Odd (k + 2) ↔ Odd k := by simp [Nat.odd_add]
    rw [List.replicate_succ, List.replicate_succ, List.cons_append, List.cons_append,
      hasAccelerator_pair, ih]
    simp only [hodd]

theorem hasAccelerator_replicate (k : Nat) : hasAccelerator (List.replicate k '&') = false := by
  induction k using Nat.twoStepInduction with
  | zero => rfl
  | one => rfl
  | more k ih _ => rw [List.replicate_succ, List.replicate_succ, hasAccelerator_pair, ih]

/-! ## Runs in a text -/

/-- Somewhere in the text a letter or digit stands behind a run of ampersands whose number is odd.
The run is as long as it can be: no other ampersand is in front of it. -/
def HasOddRun (s : List Char) : Prop :=
  ∃ before c behind k, s = before ++ (List.replicate k '&' ++ c :: behind) ∧
    '&' ∉ before.getLast? ∧ Odd k ∧ isAlphanumeric c = true

/-- A text begins with a run of ampersands, be it empty, and ends there or goes on with something
else. -/
theorem exists_run (s : List Char) :
    ∃ k, s = List.replicate k '&' ∨
      ∃ c behind, c ≠ '&' ∧ s = List.replicate k '&' ++ c :: behind := by
  induction s with
  | nil => exact ⟨0, .inl rfl⟩
  | cons d s ih =>
    by_cases hd : d = '&'
    · subst hd
      obtain ⟨k, rfl | ⟨c, behind, hc, rfl⟩⟩ := ih
      · exact ⟨k + 1, .inl rfl⟩
      · exact ⟨k + 1, .inr ⟨c, behind, hc, rfl⟩⟩
    · exact ⟨0, .inr ⟨d, s, hd, rfl⟩⟩

theorem ne_ampersand_of_isAlphanumeric {c : Char} (h : isAlphanumeric c = true) : c ≠ '&' := by
  rintro rfl
  rw [isAlphanumeric_ampersand] at h
  cases h

/-- The run at the start of a text is the one in front of the first other character. -/
theorem replicate_append_inj {c d : Char} {s t : List Char} {j k : Nat} (hc : c ≠ '&')
    (hd : d ≠ '&') (h : List.replicate j '&' ++ c :: s = List.replicate k '&' ++ d :: t) :
    j = k ∧ c = d := by
  induction j generalizing k with
  | zero =>
    cases k with
    | zero => exact ⟨rfl, (List.cons_eq_cons.1 h).1⟩
    | succ k => exact absurd (List.cons_eq_cons.1 h).1 hc
  | succ j ih =>
    cases k with
    | zero => exact absurd (List.cons_eq_cons.1 h).1.symm hd
    | succ k =>
      obtain ⟨hjk, hcd⟩ := ih (List.cons_eq_cons.1 h).2
      exact ⟨congrArg Nat.succ hjk, hcd⟩

/-- A run of odd length is the first run of a text or stands behind what ends it. -/
theorem hasOddRun_run {c : Char} (hc : c ≠ '&') (behind : List Char) (k : Nat) :
    HasOddRun (List.replicate k '&' ++ c :: behind) ↔
      Odd k ∧ isAlphanumeric c = true ∨ HasOddRun behind := by
  constructor
  · rintro ⟨before, d, rest, j, he, hlast, hodd, hd⟩
    have hd' := ne_ampersand_of_isAlphanumeric hd
    obtain ⟨front, rfl, hrest⟩ | ⟨more, hrun, hrest⟩ := List.append_eq_append_iff.1 he
    · cases front with
      | nil =>
        -- The odd run would begin with what ends the run in front of it.
        obtain ⟨rfl, -⟩ := replicate_append_inj (j := 0) hc hd' hrest
        exact absurd hodd Nat.not_odd_zero
      | cons e front =>
        obtain ⟨rfl, rfl⟩ := List.cons_eq_cons.1 hrest
        refine .inr ⟨front, d, rest, j, rfl, ?_, hodd, hd⟩
        cases front with
        | nil => simp
        | cons e front => simpa using hlast
    · cases before.eq_nil_or_concat' with
      | inl hnil =>
        subst hnil
        rw [List.nil_append] at hrun
        subst hrun
        obtain ⟨rfl, rfl⟩ := replicate_append_inj hd' hc hrest
        exact .inl ⟨hodd, hd⟩
      | inr hlong =>
        -- The run would not be as long as it can be.
        obtain ⟨front, e, rfl⟩ := hlong
        have he : e = '&' := List.eq_of_mem_replicate (n := k) (by simp [hrun])
        exact absurd (by simp [he]) hlast
  · rintro (⟨hodd, hc⟩ | ⟨before, d, rest, j, rfl, hlast, hodd, hd⟩)
    · exact ⟨[], c, behind, k, rfl, by simp, hodd, hc⟩
    · refine ⟨List.replicate k '&' ++ c :: before, d, rest, j, by simp, ?_, hodd, hd⟩
      cases before with
      | nil => simpa using hc
      | cons e before => simpa using hlast

theorem not_hasOddRun_replicate (k : Nat) : ¬HasOddRun (List.replicate k '&') := by
  rintro ⟨before, c, behind, j, he, -, -, hc⟩
  have hmem : c ∈ List.replicate k '&' := by
    rw [he]
    simp
  exact ne_ampersand_of_isAlphanumeric hc (List.eq_of_mem_replicate hmem)

/-! ## Doubled ampersands -/

/-- A text with every ampersand written twice. -/
def doubled (s : List Char) : List Char :=
  s.flatMap fun c => if c = '&' then ['&', '&'] else [c]

theorem hasAccelerator_doubled (s : List Char) : hasAccelerator (doubled s) = false := by
  induction s with
  | nil => rfl
  | cons c s ih =>
    by_cases hc : c = '&'
    · rw [doubled, List.flatMap_cons, if_pos hc]
      exact (hasAccelerator_pair _).trans ih
    · rw [doubled, List.flatMap_cons, if_neg hc]
      exact (hasAccelerator_cons hc _).trans ih

/-- A text has an accelerator exactly when a run of ampersands whose number is odd stands in front
of a letter or digit. So a text in which every ampersand is doubled has none, whatever it says. -/
theorem hasAccelerator_parity :
    (∀ s : List Char, hasAccelerator s = true ↔ HasOddRun s) ∧
      ∀ s : List Char, hasAccelerator (doubled s) = false := by
  refine ⟨fun s => ?_, hasAccelerator_doubled⟩
  -- The text is cut behind the character that ends its first run.
  induction hn : s.length using Nat.strongRecOn generalizing s with
  | ind n ih =>
    obtain ⟨k, rfl | ⟨c, behind, hc, rfl⟩⟩ := exists_run s
    · simp [hasAccelerator_replicate, not_hasOddRun_replicate]
    · have hlt : behind.length < n := by
        rw [← hn]
        simp
        omega
      rw [hasAccelerator_run hc, hasOddRun_run hc, ← ih _ hlt behind rfl]
      simp

example : hasAccelerator "&&&Save".toList = true ∧ hasAccelerator "Q&&A".toList = false := by
  decide

end MessageCatalog.Text
