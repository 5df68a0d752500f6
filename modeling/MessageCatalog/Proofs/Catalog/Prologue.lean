import MessageCatalog.Catalog.Sniffing
import MessageCatalog.Proofs.Catalog.Root

/-!
# What stands in front of the root

Telling catalogs from other files takes a look at the beginning of a file that knows nothing of the
pieces of a document. Where what it passes over leads to the root (`Leads`), it finds the root
(`sniff_of_leads`), and the pieces in front of the root lead there when it knows them all and takes
each to end where it ends (`leads_of_pieces`).
-/

namespace MessageCatalog.Sniffing

open Markup

/-! ## What is found first -/

/-- What stands behind the first place of a word stands behind the word. -/
theorem afterFirst?_append {w s : List Char} (hw : w ≠ []) (h : ¬ w <:+: (s ++ w).dropLast)
    (t : List Char) : afterFirst? w (s ++ w ++ t) = some t := by
  induction s with
  | nil =>
    obtain ⟨c, w, rfl⟩ := List.exists_cons_of_ne_nil hw
    rw [List.nil_append, List.cons_append, afterFirst?, ← List.cons_append, if_pos]
    · rw [List.drop_left]
    · exact List.isPrefixOf_iff_prefix.2 (List.prefix_append _ _)
  | cons c s ih =>
    have hne : s ++ w ≠ [] := by simp [hw]
    have hdrop : (c :: s ++ w).dropLast = c :: (s ++ w).dropLast := by
      rw [List.cons_append, List.dropLast_cons_of_ne_nil hne]
    rw [hdrop] at h
    -- In front of its end the word does not occur, so it does not begin here.
    have hno : ¬ w.isPrefixOf (c :: (s ++ w ++ t)) = true := by
      intro hp
      have hp := List.isPrefixOf_iff_prefix.1 hp
      have hlong : c :: (s ++ w).dropLast <+: c :: (s ++ w ++ t) :=
        (List.prefix_append_right_inj [c]).2
          ((List.dropLast_prefix _).trans (List.prefix_append _ _))
      refine h (List.prefix_of_prefix_length_le hp hlong ?_).isInfix
      rw [List.length_cons, List.length_dropLast, List.length_append]
      omega
    rw [List.cons_append, List.cons_append, afterFirst?, if_neg hno]
    exact ih fun hi => h (List.infix_cons hi)

/-! ## Leading to the root -/

/-- Texts of some kind and markup lead to the root. -/
inductive Leads (isText : List Char → Prop) : List Char → Prop
  | root {c : Char} (hc : endsName c = true) (s : List Char) :
    Leads isText ('<' :: 'T' :: 'S' :: c :: s)
  | text {raw s : List Char} (hraw : isText raw) (h : Leads isText ('<' :: s)) :
    Leads isText (raw ++ '<' :: s)
  | markup {s rest others : List Char} {first : Char} (hc : closing? s = some (first, others))
    (ha : afterFirst? (first :: others) s = some rest) (h : Leads isText rest) : Leads isText s

/-- Byte order marks, and then blanks. -/
def IsMarksAndBlanks (raw : List Char) : Prop :=
  ∃ marks blanks, raw = marks ++ blanks ∧ (∀ c ∈ marks, c = Char.ofNat 0xFEFF) ∧
    ∀ c ∈ blanks, Text.isBlank c = true

theorem dropBlanks_bracket (s : List Char) : dropBlanks ('<' :: s) = '<' :: s := rfl

theorem dropBlanks_append {raw : List Char} (h : IsMarksAndBlanks raw) (s : List Char) :
    dropBlanks (raw ++ '<' :: s) = '<' :: s := by
  obtain ⟨marks, blanks, rfl, hmarks, hblanks⟩ := h
  have hm : (marks ++ (blanks ++ '<' :: s)).dropWhile (· == Char.ofNat 0xFEFF) =
      (blanks ++ '<' :: s).dropWhile (· == Char.ofNat 0xFEFF) :=
    List.dropWhile_append_of_pos fun c hc => beq_iff_eq.2 (hmarks c hc)
  have hb : (blanks ++ '<' :: s).dropWhile (· == Char.ofNat 0xFEFF) = blanks ++ '<' :: s := by
    cases blanks with
    | nil => rfl
    | cons c blanks =>
      have hc : (c == Char.ofNat 0xFEFF) = false := by
        have hc := hblanks c List.mem_cons_self
        rw [beq_eq_false_iff_ne]
        rintro rfl
        exact absurd hc (by decide)
      rw [List.cons_append, List.dropWhile_cons_of_neg (by rw [hc]; exact Bool.false_ne_true)]
  rw [dropBlanks, List.append_assoc, hm, hb, Text.trimStart,
    List.dropWhile_append_of_pos hblanks]
  rfl

/-- Markup that is passed over begins with a bracket. -/
theorem exists_bracket_of_closing? {s : List Char} {w : Char × List Char}
    (h : closing? s = some w) : ∃ t, s = '<' :: t := by
  have hword : ∀ {w : List Char}, ('<' :: w).isPrefixOf s = true → ∃ t, s = '<' :: t := by
    intro w hw
    obtain ⟨t, ht⟩ := List.isPrefixOf_iff_prefix.1 hw
    exact ⟨w ++ t, ht.symm⟩
  unfold closing? at h
  split at h
  · next hp => exact hword hp
  · split at h
    · next hp => exact hword hp
    · split at h
      · next hp => exact hword hp
      · cases h

theorem root?_eq (s : List Char) :
    root? s = match closing? (dropBlanks s) with
      | none => some (dropBlanks s)
      | some (first, others) => (afterFirst? (first :: others) (dropBlanks s)).bind root? := by
  rw [root?]
  cases closing? (dropBlanks s) with
  | none => rfl
  | some w =>
    dsimp only
    split
    · next ha => simp [ha]
    · next ha => simp [ha]

/-- Where texts that are dropped and markup lead to the root, the root is found. -/
theorem exists_root_of_leads {s : List Char} (h : Leads IsMarksAndBlanks s) :
    ∃ t, root? s = some t ∧ isRoot t = true := by
  induction h with
  | @root c hc s =>
    refine ⟨'<' :: 'T' :: 'S' :: c :: s, ?_, ?_⟩
    · rw [root?_eq, dropBlanks_bracket]
      rfl
    · simp only [endsName, Bool.or_eq_true] at hc
      have hblank : isSpace c = true → Text.isBlank c = true := by
        simp only [isSpace, Bool.or_eq_true, beq_iff_eq]
        rintro (((rfl | rfl) | rfl) | rfl) <;> decide
      rcases hc with (hc | hc) | hc
      · simp [isRoot, hblank hc]
      · simp [isRoot, hc]
      · simp [isRoot, hc]
  | @text raw s hraw h ih =>
    obtain ⟨t, ht, hr⟩ := ih
    refine ⟨t, ?_, hr⟩
    rw [← ht, root?_eq, dropBlanks_append hraw, root?_eq ('<' :: s), dropBlanks_bracket]
  | @markup s rest others first hc ha h ih =>
    obtain ⟨t, ht, hr⟩ := ih
    refine ⟨t, ?_, hr⟩
    obtain ⟨u, rfl⟩ := exists_bracket_of_closing? hc
    rw [root?_eq, dropBlanks_bracket, hc]
    dsimp only
    rw [ha, Option.bind_some, ht]

/-- A file whose beginning leads to the root is told to be a catalog. -/
theorem sniff_of_leads {bytes : List UInt8} (h : Leads IsMarksAndBlanks (beginning bytes)) :
    sniff bytes = true := by
  obtain ⟨t, ht, hr⟩ := exists_root_of_leads h
  rw [sniff, ht]
  exact hr

/-! ## Pieces that lead to the root -/

/-- The pieces that the look at the beginning passes over as they are: texts of some kind,
instructions, comments that do not begin with what could end them, and document types in capital
letters with no markup inside. -/
def IsPassed (isText : List Char → Prop) : Piece → Prop
  | .text raw => isText raw
  | .instruction _ => True
  | .comment inside => ¬ "!-->".toList <+: inside ∧ ¬ "!--->".toList <+: inside
  | .doctype inside => "!DOCTYPE".toList <+: inside ∧ '<' ∉ inside
  | _ => False

theorem closing?_instruction (s : List Char) : closing? ('<' :: '?' :: s) = some ('?', ['>']) := by
  rfl

theorem closing?_comment (s : List Char) :
    closing? ('<' :: '!' :: '-' :: '-' :: s) = some ('-', ['-', '>']) := by
  rfl

theorem closing?_doctype (s : List Char) :
    closing? ('<' :: ("!DOCTYPE".toList ++ s)) = some ('>', []) := by
  rfl

section

variable {inside : List Char}

theorem afterFirst?_instruction (h : (Piece.instruction inside).IsClosed) (t : List Char) :
    afterFirst? ['?', '>'] ((Piece.instruction inside).source ++ t) = some t := by
  obtain ⟨-, ⟨u, rfl⟩, hno⟩ := h
  have hs : (Piece.instruction (u ++ ['?'])).source = ('<' :: u) ++ ['?', '>'] := by
    simp [Piece.source]
  rw [hs]
  refine afterFirst?_append (by simp) ?_ t
  rw [List.dropLast_append_of_ne_nil (by simp)]
  intro hi
  rcases List.infix_cons_iff.1 hi with hp | hi
  · exact absurd (List.cons_prefix_cons.1 hp).1 (by decide)
  · exact hno hi

theorem afterFirst?_comment (h : (Piece.comment inside).IsClosed) (hopen : "!--".toList <+: inside)
    (hno1 : ¬ "!-->".toList <+: inside) (hno2 : ¬ "!--->".toList <+: inside) (t : List Char) :
    afterFirst? ['-', '-', '>'] ((Piece.comment inside).source ++ t) = some t := by
  obtain ⟨⟨u, hu⟩, -, hno⟩ := h
  obtain ⟨body, rfl⟩ := hopen
  have hs : (Piece.comment ("!--".toList ++ body)).source = ('<' :: u) ++ ['-', '-', '>'] := by
    rw [← hu]
    simp [Piece.source]
  rw [hs]
  refine afterFirst?_append (by simp) ?_ t
  rw [List.dropLast_append_of_ne_nil (by simp)]
  intro hi
  have hw : '<' :: u ++ ['-', '-', '>'].dropLast = '<' :: '!' :: '-' :: '-' :: body := by
    show '<' :: (u ++ ['-', '-']) = _
    rw [hu]
    rfl
  rw [hw] at hi
  -- The word would have to begin with a dash of the opening, or stand behind it.
  rcases List.infix_cons_iff.1 hi with hp | hi
  · exact absurd (List.cons_prefix_cons.1 hp).1 (by decide)
  rcases List.infix_cons_iff.1 hi with hp | hi
  · exact absurd (List.cons_prefix_cons.1 hp).1 (by decide)
  rcases List.infix_cons_iff.1 hi with hp | hi
  · exact hno1 (List.cons_prefix_cons.2 ⟨rfl, hp⟩)
  rcases List.infix_cons_iff.1 hi with hp | hi
  · exact hno2 (List.cons_prefix_cons.2 ⟨rfl, List.cons_prefix_cons.2 ⟨rfl, hp⟩⟩)
  · exact hno hi

theorem afterFirst?_doctype (h : (Piece.doctype inside).IsClosed) (hno : '<' ∉ inside)
    (t : List Char) : afterFirst? ['>'] ((Piece.doctype inside).source ++ t) = some t := by
  have hs : (Piece.doctype inside).source = ('<' :: inside) ++ ['>'] := rfl
  rw [hs]
  refine afterFirst?_append (by simp) ?_ t
  rw [List.dropLast_concat]
  intro hi
  rcases List.mem_cons.1 (hi.subset (List.mem_singleton_self _)) with hb | hb
  · cases hb
  · exact h hno hb

end

/-- What is passed over in front of the root leads there. -/
theorem leads_of_pieces {isText : List Char → Prop} {before : List Piece} {inside t : List Char}
    {c : Char} (hclosed : ∀ p ∈ before, p.IsClosed)
    (hapart : (before ++ [Piece.tag inside]).IsChain Piece.AreApart)
    (hevent : ∀ p ∈ before, ∃ e, Event.ofPiece p = .ok e)
    (hpassed : ∀ p ∈ before, IsPassed isText p) (hc : endsName c = true) :
    Leads isText (before.flatMap Piece.source ++ '<' :: 'T' :: 'S' :: c :: t) := by
  induction before with
  | nil => exact .root hc t
  | cons p before ih =>
    have hrest := ih (fun q hq => hclosed q (List.mem_cons_of_mem p hq)) hapart.tail
      (fun q hq => hevent q (List.mem_cons_of_mem p hq))
      (fun q hq => hpassed q (List.mem_cons_of_mem p hq))
    have hp := hpassed p List.mem_cons_self
    have hpc := hclosed p List.mem_cons_self
    rw [List.flatMap_cons, List.append_assoc]
    cases p with
    | tag inside => exact hp.elim
    | verbatim inside => exact hp.elim
    | text raw =>
      -- Markup follows the text.
      obtain ⟨s, hs⟩ :
          ∃ s, before.flatMap Piece.source ++ '<' :: 'T' :: 'S' :: c :: t = '<' :: s := by
        cases before with
        | nil => exact ⟨_, rfl⟩
        | cons q before =>
          rcases (List.isChain_cons_cons.1 hapart).1 with h | h
          · cases h
          · cases q with
            | text raw => cases h
            | _ => exact ⟨_, rfl⟩
      rw [hs] at hrest ⊢
      exact .text hp hrest
    | instruction inside =>
      obtain ⟨u, rfl⟩ := hpc.1
      exact .markup (closing?_instruction _) (afterFirst?_instruction hpc _) hrest
    | comment inside =>
      obtain ⟨e, he⟩ := hevent _ List.mem_cons_self
      have hopen : "!--".toList <+: inside := by
        dsimp only [Event.ofPiece] at he
        split at he
        · next h => exact List.isPrefixOf_iff_prefix.1 h
        · cases he
      have hfirst := afterFirst?_comment hpc hopen hp.1 hp.2
        (before.flatMap Piece.source ++ '<' :: 'T' :: 'S' :: c :: t)
      obtain ⟨body, rfl⟩ := hopen
      exact .markup (closing?_comment _) hfirst hrest
    | doctype inside =>
      have hfirst := afterFirst?_doctype hpc hp.2
        (before.flatMap Piece.source ++ '<' :: 'T' :: 'S' :: c :: t)
      obtain ⟨u, rfl⟩ := hp.1
      refine .markup ?_ hfirst hrest
      simp only [Piece.source, List.append_assoc, List.cons_append]
      exact closing?_doctype _

end MessageCatalog.Sniffing
