import Mathlib.Data.List.Chain
import MessageCatalog.Markup.Piece

/-!
# Where pieces end

What is cut out of a text ends at the first place where it can (`Piece.IsClosed`): there is no end
of an instruction inside an instruction, and none of a comment inside a comment, behind its opening.
Runs of text never stand side by side. Both hold of every piece that is complete, as each character
keeps them (`isSound_step`).
-/

namespace MessageCatalog.Markup

/-! ## Ends -/

/-- The piece ends at the first place where it can. -/
def Piece.IsClosed : Piece → Prop
  | .text raw => '<' ∉ raw
  | .instruction inside =>
    ['?'] <+: inside ∧ ['?'] <:+ inside ∧ ¬ ['?', '>'] <:+: inside
  | .comment inside =>
    ['-', '-'] <:+ inside ∧ 5 ≤ inside.length ∧ ¬ ['-', '-', '>'] <:+: inside.drop 3
  | .doctype inside => '<' ∉ inside → '>' ∉ inside
  | _ => True

def Piece.isText : Piece → Bool
  | .text _ => true
  | _ => false

/-- The pieces are not both runs of text. -/
def Piece.AreApart (p q : Piece) : Prop :=
  p.isText = false ∨ q.isText = false

/-- What can be held of a piece, latest first. -/
def Mode.CanHold : Mode → List Char → Prop
  | .content, held => '<' ∉ held
  | .bracket, held => held = []
  | .declaration, held => held = ['!']
  | .instruction, held => ['?'] <+: held.reverse ∧ ¬ ['?', '>'] <:+: held.reverse
  | .comment, held => ¬ ['-', '-', '>'] <:+: held.reverse.drop 3
  | .doctype depth, held => '<' ∉ held → depth = 0 ∧ '>' ∉ held
  | _, _ => True

/-- The pieces that are complete are closed and apart, and so is what is held. -/
structure Cutting.IsSound (k : Cutting) : Prop where
  closed : ∀ p ∈ k.pieces, p.IsClosed
  apart : k.pieces.IsChain Piece.AreApart
  /-- A run of text at hand follows no other one. -/
  front : k.mode = .content → ∀ p ∈ k.pieces.head?, p.isText = false
  held : k.mode.CanHold k.held

/-! ## Ends that are found -/

/-- A word occurs in front of a last character, or ends with it. -/
theorem infix_append_singleton {w s : List Char} {c : Char} (h : w <:+: s ++ [c]) :
    w <:+: s ∨ w <:+ s ++ [c] :=
  (List.infix_concat_iff.1 h).symm

theorem infix_drop_append_singleton {w s : List Char} {c : Char} {n : Nat} (hw : w ≠ [])
    (h : w <:+: (s ++ [c]).drop n) : w <:+: s.drop n ∨ w <:+ s.drop n ++ [c] := by
  by_cases hn : n ≤ s.length
  · rw [List.drop_append_of_le_length hn] at h
    exact infix_append_singleton h
  · rw [List.drop_of_length_le (by rw [List.length_append, List.length_singleton]; omega)] at h
    exact absurd (List.infix_nil.1 h) hw

/-- What ends a longer text ends the shorter one but for the last character. -/
theorem suffix_of_append_singleton {w s : List Char} {b c : Char}
    (h : w ++ [b] <:+ s ++ [c]) : c = b ∧ w <:+ s := by
  rcases List.suffix_concat_iff.1 h with h | ⟨t, ht, hs⟩
  · exact absurd h (by simp)
  · obtain ⟨rfl, hbc⟩ := List.append_inj' ht rfl
    exact ⟨(List.singleton_inj.1 hbc).symm, hs⟩

namespace Cutting

variable {k : Cutting}

/-! ## One character -/

theorem isSound_hold (hk : k.IsSound) {mode : Mode} {c : Char}
    (hm : mode = .content → k.mode = .content) (hh : mode.CanHold (c :: k.held)) :
    (k.hold mode c).IsSound :=
  ⟨hk.closed, hk.apart, fun h => hk.front (hm h), hh⟩

theorem isChain_cons {p : Piece} (hk : k.pieces.IsChain Piece.AreApart)
    (hp : ∀ q ∈ k.pieces.head?, p.AreApart q) : (p :: k.pieces).IsChain Piece.AreApart := by
  cases hs : k.pieces with
  | nil => exact .singleton p
  | cons q rest =>
    rw [hs] at hk hp
    exact List.isChain_cons_cons.2 ⟨hp q rfl, hk⟩

theorem isSound_close (hk : k.IsSound) {piece : List Char → Piece}
    (ht : ∀ s, (piece s).isText = false) (hp : (piece k.held.reverse).IsClosed) :
    (k.close piece).IsSound where
  closed p h := by
    rcases List.mem_cons.1 h with rfl | h
    · exact hp
    · exact hk.closed p h
  apart := isChain_cons hk.apart fun q _ => .inl (ht _)
  front _ p h := by
    rw [show p = piece k.held.reverse from (Option.some.inj h).symm]
    exact ht _
  held := List.not_mem_nil

/-- The pieces with the run of text at hand are closed and apart. -/
theorem piecesWithText_sound (hk : k.IsSound) (hm : k.mode = .content) :
    (∀ p ∈ k.piecesWithText, p.IsClosed) ∧ k.piecesWithText.IsChain Piece.AreApart := by
  unfold piecesWithText
  split
  · exact ⟨hk.closed, hk.apart⟩
  · have hheld : '<' ∉ k.held := by
      have h := hk.held
      rwa [hm] at h
    refine ⟨fun p h => ?_, isChain_cons hk.apart fun q hq => .inr (hk.front hm q hq)⟩
    rcases List.mem_cons.1 h with rfl | h
    · exact fun h => hheld (List.mem_reverse.1 h)
    · exact hk.closed p h

theorem isSound_stepTag (hk : k.IsSound) (quote : Option Char) (c : Char) :
    (k.stepTag quote c).IsSound := by
  have hhold : ∀ q, (k.hold (.tag q) c).IsSound := fun q =>
    isSound_hold hk nofun trivial
  unfold stepTag
  cases quote with
  | none =>
    dsimp only
    split
    · exact isSound_close hk (fun _ => rfl) trivial
    · split <;> exact hhold _
  | some q => exact hhold _

/-- Every character keeps the pieces closed and apart. -/
theorem isSound_step (hk : k.IsSound) (c : Char) : (k.step c).IsSound := by
  have hheld := hk.held
  unfold step
  cases hm : k.mode with
  | content =>
    rw [hm] at hheld
    dsimp only
    split
    · obtain ⟨hclosed, hapart⟩ := piecesWithText_sound hk hm
      exact ⟨hclosed, hapart, nofun, rfl⟩
    · next hc =>
      refine isSound_hold hk (fun _ => hm) ?_
      simpa [Mode.CanHold, Ne.symm hc] using hheld
  | bracket =>
    rw [hm] at hheld
    dsimp only [Mode.CanHold] at hheld ⊢
    split
    · next hc => exact isSound_hold hk nofun (by rw [hheld, hc]; rfl)
    · split
      · next hc =>
        refine isSound_hold hk nofun ?_
        rw [hheld, hc]
        exact ⟨by decide, by decide⟩
      · exact isSound_stepTag hk none c
  | tag quote => exact isSound_stepTag hk quote c
  | declaration =>
    rw [hm] at hheld
    dsimp only [Mode.CanHold] at hheld ⊢
    split
    · exact isSound_hold hk nofun trivial
    · split
      · next hc =>
        refine isSound_hold hk nofun ?_
        rw [hheld, hc]
        exact (by decide : ¬ ['-', '-', '>'] <:+: [])
      · split
        · next hc =>
          refine isSound_hold hk nofun fun _ => ⟨rfl, ?_⟩
          rw [hheld]
          rcases hc with rfl | rfl <;> decide
        · exact ⟨hk.closed, hk.apart, nofun, trivial⟩
  | instruction =>
    rw [hm] at hheld
    obtain ⟨hfirst, hno⟩ := hheld
    dsimp only
    split
    · next hc =>
      refine isSound_close hk (fun _ => rfl) ⟨hfirst, ?_, hno⟩
      rw [← List.reverse_prefix, List.reverse_reverse]
      exact List.isPrefixOf_iff_prefix.1 hc.2
    · next hc =>
      refine isSound_hold hk nofun ⟨?_, fun h => ?_⟩
      · rw [List.reverse_cons]
        exact hfirst.trans (List.prefix_append _ _)
      · rw [List.reverse_cons] at h
        rcases infix_append_singleton h with h | h
        · exact hno h
        · -- The end that is found would have closed the instruction.
          obtain ⟨hc', hs⟩ := suffix_of_append_singleton (w := ['?']) h
          rw [← List.reverse_prefix, List.reverse_reverse] at hs
          exact hc ⟨hc', List.isPrefixOf_iff_prefix.2 hs⟩
  | comment =>
    rw [hm] at hheld
    dsimp only [Mode.CanHold] at hheld ⊢
    split
    · next hc =>
      obtain ⟨hdashes, hlength⟩ := Bool.and_eq_true_iff.1 hc.2
      refine isSound_close hk (fun _ => rfl) ⟨?_, ?_, hheld⟩
      · rw [← List.reverse_prefix, List.reverse_reverse]
        exact List.isPrefixOf_iff_prefix.1 hdashes
      · rw [List.length_reverse]
        exact of_decide_eq_true hlength
    · next hc =>
      refine isSound_hold hk nofun fun h => ?_
      rw [List.reverse_cons] at h
      rcases infix_drop_append_singleton (by simp) h with h | h
      · exact hheld h
      · -- The end that is found would have closed the comment.
        obtain ⟨hc', hs⟩ := suffix_of_append_singleton (w := ['-', '-']) h
        have hlength := hs.length_le
        rw [List.length_drop, List.length_reverse] at hlength
        have hdashes := hs.trans (List.drop_suffix 3 _)
        rw [← List.reverse_prefix, List.reverse_reverse] at hdashes
        refine hc ⟨hc', Bool.and_eq_true_iff.2 ⟨List.isPrefixOf_iff_prefix.2 hdashes, ?_⟩⟩
        exact decide_eq_true (by simp only [List.length_cons, List.length_nil] at hlength; omega)
  | verbatim =>
    dsimp only
    split
    · exact isSound_close hk (fun _ => rfl) trivial
    · exact isSound_hold hk nofun trivial
  | doctype depth =>
    rw [hm] at hheld
    dsimp only [Mode.CanHold] at hheld ⊢
    split
    · next hc => exact isSound_hold hk nofun fun h => absurd (hc ▸ List.mem_cons_self) h
    · next hopen =>
      have hless : '<' ∉ c :: k.held → '<' ∉ k.held := fun h hm => h (List.mem_cons_of_mem c hm)
      split
      · next hc =>
        cases depth with
        | zero =>
          refine isSound_close hk (fun _ => rfl) fun h => ?_
          rw [List.mem_reverse] at h ⊢
          exact (hheld h).2
        | succ depth =>
          -- A bracket is open, so the document type holds one.
          exact isSound_hold hk nofun fun h => absurd (hheld (hless h)).1 (Nat.succ_ne_zero _)
      · next hc =>
        refine isSound_hold hk nofun fun h => ⟨(hheld (hless h)).1, ?_⟩
        exact List.not_mem_cons_of_ne_of_not_mem (Ne.symm hc) (hheld (hless h)).2
  | stray => exact hk

/-! ## Whole texts -/

theorem isSound_foldl (hk : k.IsSound) (s : List Char) : (s.foldl step k).IsSound := by
  induction s generalizing k with
  | nil => exact hk
  | cons c s ih => exact ih (isSound_step hk c)

theorem isSound_start : ({} : Cutting).IsSound :=
  ⟨fun _ h => absurd h List.not_mem_nil, .nil, fun _ _ h => (nomatch h), List.not_mem_nil⟩

end Cutting

/-- The pieces of a text are closed, and no runs of text stand side by side. -/
theorem finished_cut_sound (s : List Char) :
    (∀ p ∈ (cut s).finished, p.IsClosed) ∧ (cut s).finished.IsChain Piece.AreApart := by
  have hk : (cut s).IsSound := Cutting.isSound_foldl Cutting.isSound_start s
  have hreverse : ∀ {pieces : List Piece}, (∀ p ∈ pieces, p.IsClosed) →
      pieces.IsChain Piece.AreApart →
      (∀ p ∈ pieces.reverse, p.IsClosed) ∧ pieces.reverse.IsChain Piece.AreApart := by
    intro pieces hclosed hapart
    refine ⟨fun p hp => hclosed p (List.mem_reverse.1 hp), List.isChain_reverse.2 ?_⟩
    exact hapart.imp fun _ _ h => h.symm
  unfold Cutting.finished
  split
  · next hm =>
    obtain ⟨hclosed, hapart⟩ := Cutting.piecesWithText_sound hk hm
    exact hreverse hclosed hapart
  · exact hreverse hk.closed hk.apart

end MessageCatalog.Markup
