import MessageCatalog.Proofs.Markup.Pieces

/-!
# Sections of a text

Instructions, comments and verbatim sections go on to the first bracket behind a word that ends
them (`IsSection`). So each of them is whole when that end does not occur inside.
-/

namespace MessageCatalog.Markup

namespace Cutting

/-- In the mode, a piece goes on to the first bracket where what is held of it may end. -/
def IsSection (mode : Mode) (ends : List Char → Bool) (piece : List Char → Piece) : Prop :=
  ∀ (k : Cutting) (c : Char), k.mode = mode →
    k.step c = if c = '>' ∧ ends k.held = true then k.close piece else k.hold mode c

theorem isSection_instruction : IsSection .instruction (['?'].isPrefixOf ·) .instruction := by
  intro k c hm
  simp only [step, hm]

theorem isSection_comment : IsSection .comment endsComment .comment := by
  intro k c hm
  simp only [step, hm]

theorem isSection_verbatim : IsSection .verbatim ([']', ']'].isPrefixOf ·) .verbatim := by
  intro k c hm
  simp only [step, hm]

variable {mode : Mode} {ends : List Char → Bool} {piece : List Char → Piece}

/-- What does not end a section is held. -/
theorem IsSection.foldl_step (h : IsSection mode ends piece) {s held : List Char}
    (hs : ∀ t u, s = t ++ '>' :: u → ends (t.reverse ++ held) = false) (pieces : List Piece) :
    s.foldl step ⟨mode, held, pieces⟩ = ⟨mode, s.reverse ++ held, pieces⟩ := by
  induction s generalizing held with
  | nil => rfl
  | cons c s ih =>
    have hc : ¬(c = '>' ∧ ends held = true) := by
      rintro ⟨rfl, he⟩
      exact absurd he (Bool.eq_false_iff.1 (hs [] s rfl))
    rw [List.foldl_cons, h _ c rfl, if_neg hc, List.reverse_cons, List.append_assoc]
    refine ih fun t u ht => ?_
    have hlater := hs (c :: t) u (by rw [ht, List.cons_append])
    rwa [List.reverse_cons, List.append_assoc] at hlater

/-- A section that can end is complete at the bracket. -/
theorem IsSection.foldl_step_end (h : IsSection mode ends piece) {s held : List Char}
    (hs : ∀ t u, s = t ++ '>' :: u → ends (t.reverse ++ held) = false)
    (he : ends (s.reverse ++ held) = true) (pieces : List Piece) :
    (s ++ ['>']).foldl step ⟨mode, held, pieces⟩ =
      { pieces := piece (held.reverse ++ s) :: pieces } := by
  rw [List.foldl_append, h.foldl_step hs, List.foldl_cons, h _ '>' rfl, if_pos ⟨rfl, he⟩]
  simp [close]

end Cutting

/-! ## Where an end can be found -/

/-- A character that stands in a text, but not in its tail, stands in front of the tail. -/
theorem exists_of_append_eq {c : Char} {s tail t u : List Char} (h : s ++ tail = t ++ c :: u)
    (hc : c ∉ tail) : ∃ v, s = t ++ c :: v := by
  rcases List.append_eq_append_iff.1 h with ⟨v, -, htail⟩ | ⟨v, hs, hv⟩
  · exact absurd (htail ▸ List.mem_append_right v List.mem_cons_self) hc
  · cases v with
    | nil => exact absurd (List.nil_append tail ▸ hv ▸ List.mem_cons_self) hc
    | cons d v =>
      obtain ⟨rfl, -⟩ := List.cons.inj hv
      exact ⟨v, hs⟩

/-- A character that stands in a text, but not in its front, stands behind the front. -/
theorem exists_of_eq_append {c : Char} {front s t u : List Char} (h : front ++ s = t ++ c :: u)
    (hc : c ∉ front) : ∃ v, t = front ++ v ∧ s = v ++ c :: u := by
  rcases List.append_eq_append_iff.1 h with ⟨v, ht, hs⟩ | ⟨v, hfront, hv⟩
  · exact ⟨v, ht, hs⟩
  · cases v with
    | nil => exact ⟨[], by simpa using hfront.symm, hv.symm⟩
    | cons d v =>
      obtain ⟨rfl, -⟩ := List.cons.inj hv
      exact absurd (hfront ▸ List.mem_append_right t List.mem_cons_self) hc

theorem infix_of_suffix {w t : List Char} (h : w <:+ t) (c : Char) (v : List Char) :
    w ++ [c] <:+: t ++ c :: v := by
  obtain ⟨t, rfl⟩ := h
  exact ⟨t, v, by simp⟩

/-- Two brackets end a text when they end it behind a bracket that opens. -/
theorem suffix_of_isPrefixOf {s rest : List Char}
    (h : [']', ']'].isPrefixOf (s.reverse ++ '[' :: rest) = true) : [']', ']'] <:+ s := by
  rw [← List.reverse_prefix]
  cases hs : s.reverse with
  | nil => simp [hs] at h
  | cons a s =>
    cases s with
    | nil => simp [hs] at h
    | cons b s =>
      simp only [hs, List.cons_append, List.isPrefixOf_cons_cons, Bool.and_eq_true, beq_iff_eq] at h
      obtain ⟨rfl, rfl, -⟩ := h
      exact List.prefix_append [']', ']'] s

/-! ## Whole sections -/

/-- An instruction is whole when its end does not occur in it. -/
theorem isWhole_instruction {s : List Char} (h : ¬['?', '>'] <:+: '?' :: s) :
    (Piece.instruction ('?' :: (s ++ ['?']))).IsWhole := by
  have hends : ∀ t u, s ++ ['?'] = t ++ '>' :: u →
      ['?'].isPrefixOf (t.reverse ++ ['?']) = false := by
    intro t u ht
    obtain ⟨v, rfl⟩ := exists_of_append_eq ht (by simp)
    refine Bool.eq_false_iff.2 fun hp => h ?_
    rw [← List.reverse_cons, List.isPrefixOf_iff_prefix] at hp
    have hs : ['?'] <:+ '?' :: t := List.reverse_prefix.1 hp
    exact infix_of_suffix hs '>' v
  exact Cutting.isSection_instruction.foldl_step_end hends (by simp) []

/-- A comment is whole when its end does not occur in it. -/
theorem isWhole_comment {s : List Char} (h : ¬['-', '-', '>'] <:+: s) :
    (Piece.comment ('!' :: '-' :: '-' :: (s ++ ['-', '-']))).IsWhole := by
  have hends : ∀ t u, '-' :: (s ++ ['-', '-']) = t ++ '>' :: u →
      Cutting.endsComment (t.reverse ++ ['-', '!']) = false := by
    intro t u ht
    refine Bool.eq_false_iff.2 fun he => h ?_
    obtain ⟨hp, hlength⟩ := Bool.and_eq_true_iff.1 he
    cases t with
    | nil => cases ht
    | cons c t =>
      obtain ⟨v, rfl⟩ := exists_of_append_eq (List.cons.inj ht).2 (by simp)
      -- With the opening in front, the dashes of an end are behind it.
      have ht : 2 ≤ t.reverse.length := by
        have := of_decide_eq_true hlength
        simp at this ⊢
        omega
      rw [List.isPrefixOf_iff_prefix, List.reverse_cons, List.append_assoc] at hp
      have hdashes := List.prefix_of_prefix_length_le hp (List.prefix_append _ _) ht
      have hs : ['-', '-'] <:+ t := List.reverse_prefix.1 hdashes
      exact infix_of_suffix hs '>' v
  exact Cutting.isSection_comment.foldl_step_end hends (by simp [Cutting.endsComment]) []

/-- A verbatim section is whole when its end does not occur in it. -/
theorem isWhole_verbatim {s : List Char} (h : ¬[']', ']', '>'] <:+: s) :
    (Piece.verbatim ("![CDATA[".toList ++ (s ++ [']', ']']))).IsWhole := by
  have hends : ∀ t u, "CDATA[".toList ++ (s ++ [']', ']']) = t ++ '>' :: u →
      [']', ']'].isPrefixOf (t.reverse ++ ['[', '!']) = false := by
    intro t u ht
    refine Bool.eq_false_iff.2 fun hp => h ?_
    -- The first bracket stands behind the opening.
    obtain ⟨t, rfl, hs⟩ := exists_of_eq_append ht (by decide)
    obtain ⟨v, rfl⟩ := exists_of_append_eq hs (by decide)
    rw [List.reverse_append, List.append_assoc] at hp
    exact infix_of_suffix (suffix_of_isPrefixOf hp) '>' v
  exact Cutting.isSection_verbatim.foldl_step_end hends (by simp) []

end MessageCatalog.Markup
