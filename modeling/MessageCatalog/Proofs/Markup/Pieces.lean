import MessageCatalog.Markup.Event

/-!
# Cutting out what was put together

A text that is put together from pieces is cut into the same pieces again, if each of them is whole:
a run of text has no opening bracket in it, and markup is cut out as itself where it stands alone.
Only runs of text that stand side by side come back as one (`joined`).
-/

namespace MessageCatalog.Markup

/-! ## Earlier pieces -/

namespace Cutting

/-- A cutting with some pieces in front of its own. -/
def behind (older : List Piece) (k : Cutting) : Cutting :=
  { k with pieces := k.pieces ++ older }

section Behind
variable (older : List Piece) (k : Cutting)

theorem piecesWithText_behind : (k.behind older).piecesWithText = k.piecesWithText ++ older := by
  unfold piecesWithText behind
  split <;> simp

theorem close_behind (piece : List Char → Piece) :
    (k.behind older).close piece = (k.close piece).behind older := rfl

theorem hold_behind (mode : Mode) (c : Char) :
    (k.behind older).hold mode c = (k.hold mode c).behind older := rfl

theorem stepTag_behind (quote : Option Char) (c : Char) :
    (k.behind older).stepTag quote c = (k.stepTag quote c).behind older := by
  cases quote <;> simp only [stepTag, apply_ite (behind older), close_behind, hold_behind]

/-- Taking a character never looks at the pieces that are complete. -/
theorem step_behind (c : Char) : (k.behind older).step c = (k.step c).behind older := by
  have hm : (k.behind older).mode = k.mode := rfl
  have hh : (k.behind older).held = k.held := rfl
  unfold step
  rw [hm]
  cases k.mode with
  | content =>
    simp only [apply_ite (behind older), hold_behind, piecesWithText_behind]
    rfl
  | bracket => simp only [apply_ite (behind older), hold_behind, stepTag_behind]
  | tag quote => exact stepTag_behind older k quote c
  | declaration =>
    simp only [apply_ite (behind older), hold_behind]
    rfl
  | instruction | comment | verbatim =>
    simp only [apply_ite (behind older), hh, close_behind, hold_behind]
  | doctype depth =>
    cases depth <;> simp only [apply_ite (behind older), close_behind, hold_behind]
  | stray => rfl

end Behind

theorem foldl_step_behind (older : List Piece) (k : Cutting) (s : List Char) :
    s.foldl step (k.behind older) = (s.foldl step k).behind older := by
  induction s generalizing k with
  | nil => rfl
  | cons c s ih => rw [List.foldl_cons, step_behind, ih, List.foldl_cons]

theorem finished_behind (older : List Piece) (k : Cutting) :
    (k.behind older).finished = older.reverse ++ k.finished := by
  unfold finished
  rw [show (k.behind older).mode = k.mode from rfl, piecesWithText_behind]
  split
  · rw [List.reverse_append]
  · exact List.reverse_append

/-- Pieces that are complete stay. -/
theorem pieces_foldl_step (k : Cutting) (s : List Char) : k.pieces <:+ (s.foldl step k).pieces := by
  have h := foldl_step_behind k.pieces { k with pieces := [] } s
  have hk : behind k.pieces { k with pieces := [] } = k := rfl
  rw [hk] at h
  rw [h]
  exact List.suffix_append ..

end Cutting

/-- What is complete in the beginning of a text is complete in the whole text. -/
theorem pieces_cut_append (s t : List Char) : (cut s).pieces <:+ (cut (s ++ t)).pieces := by
  rw [cut_append]
  exact Cutting.pieces_foldl_step ..

/-! ## Whole pieces -/

/-- The piece is cut out again where it is written. -/
def Piece.IsWhole : Piece → Prop
  | .text raw => '<' ∉ raw
  | p => cut p.source = { pieces := [p] }

/-- Pieces as they are cut, behind a run of text: runs of text that stand side by side are one, and
empty ones are none. -/
def joined (held : List Char) : List Piece → List Piece
  | [] => if held.isEmpty then [] else [.text held]
  | .text raw :: rest => joined (held ++ raw) rest
  | p :: rest => (if held.isEmpty then [] else [.text held]) ++ p :: joined [] rest

theorem foldl_step_text {raw : List Char} (h : '<' ∉ raw) (held : List Char)
    (pieces : List Piece) :
    raw.foldl Cutting.step ⟨.content, held, pieces⟩ = ⟨.content, raw.reverse ++ held, pieces⟩ := by
  induction raw generalizing held with
  | nil => rfl
  | cons c raw ih =>
    simp only [List.mem_cons, not_or] at h
    have hc : c ≠ '<' := fun hc => h.1 hc.symm
    rw [List.foldl_cons]
    simp only [Cutting.step, if_neg hc, Cutting.hold]
    rw [ih h.2]
    simp

/-- Markup ends the run of text in front of it. -/
theorem foldl_step_markup {p : Piece} (h : cut p.source = { pieces := [p] })
    (hs : ∃ s, p.source = '<' :: s) (held : List Char) (pieces : List Piece) :
    p.source.foldl Cutting.step ⟨.content, held, pieces⟩ =
      { pieces := p :: Cutting.piecesWithText ⟨.content, held, pieces⟩ } := by
  obtain ⟨s, hs⟩ := hs
  have e := Cutting.foldl_step_behind (Cutting.piecesWithText ⟨.content, held, pieces⟩)
    ⟨.bracket, [], []⟩ s
  have hk : s.foldl Cutting.step ⟨.bracket, [], []⟩ = { pieces := [p] } := by
    rw [← h, cut, hs, List.foldl_cons]
    rfl
  rw [hk] at e
  rw [hs, List.foldl_cons]
  exact e

theorem foldl_step_source {ps : List Piece} (h : ∀ p ∈ ps, p.IsWhole) (held : List Char)
    (older : List Piece) : ∃ k : Cutting,
    (ps.flatMap Piece.source).foldl Cutting.step ⟨.content, held.reverse, older⟩ = k ∧
      k.mode = .content ∧ k.finished = older.reverse ++ joined held ps := by
  induction ps generalizing held older with
  | nil =>
    refine ⟨_, rfl, rfl, ?_⟩
    by_cases hh : held = []
    · simp [Cutting.finished, Cutting.piecesWithText, joined, hh]
    · simp [Cutting.finished, Cutting.piecesWithText, joined, hh]
  | cons p ps ih =>
    have hp := h p List.mem_cons_self
    have hps := fun q hq => h q (List.mem_cons_of_mem _ hq)
    rw [List.flatMap_cons, List.foldl_append]
    cases p with
    | text raw =>
      -- The text is held behind what is held already.
      rw [show (Piece.text raw).source = raw from rfl, foldl_step_text hp, ← List.reverse_append]
      exact ih hps (held ++ raw) older
    | _ =>
      rw [foldl_step_markup hp ⟨_, rfl⟩]
      obtain ⟨k, hk, hm, hf⟩ := ih hps [] _
      refine ⟨k, hk, hm, ?_⟩
      rw [hf]
      by_cases hh : held = []
      · simp [Cutting.piecesWithText, joined, hh]
      · simp [Cutting.piecesWithText, joined, hh]

/-- Whole pieces are cut out of the text that they make up. -/
theorem cut_source {ps : List Piece} (h : ∀ p ∈ ps, p.IsWhole) :
    (cut (ps.flatMap Piece.source)).mode = .content ∧
      (cut (ps.flatMap Piece.source)).finished = joined [] ps := by
  obtain ⟨k, hk, hm, hf⟩ := foldl_step_source h [] []
  rw [cut, show ({} : Cutting) = ⟨.content, [].reverse, []⟩ from rfl, hk]
  exact ⟨hm, hf⟩

/-! ## Tags -/

/-- The quote that is open behind some characters of a tag, unless a bracket ends the tag among
them. -/
def quoteAfter? (quote : Option Char) : List Char → Option (Option Char)
  | [] => some quote
  | c :: s =>
    match quote with
    | none =>
      if c = '>' then none
      else quoteAfter? (if c = '\x22' ∨ c = '\x27' then some c else none) s
    | some q => quoteAfter? (if c = q then none else some q) s

theorem quoteAfter?_append (quote : Option Char) (s t : List Char) :
    quoteAfter? quote (s ++ t) = (quoteAfter? quote s).bind (quoteAfter? · t) := by
  induction s generalizing quote with
  | nil => rfl
  | cons c s ih =>
    cases quote with
    | none =>
      simp only [List.cons_append, quoteAfter?]
      split
      · rfl
      · exact ih _
    | some q => exact ih _

/-- Characters without a meaning in tags leave it open whether there is a quote. -/
theorem quoteAfter?_plain {s : List Char} (h : ∀ c ∈ s, c ≠ '>' ∧ c ≠ '\x22' ∧ c ≠ '\x27') :
    quoteAfter? none s = some none := by
  induction s with
  | nil => rfl
  | cons c s ih =>
    obtain ⟨h1, h2, h3⟩ := h c List.mem_cons_self
    simp only [quoteAfter?, if_neg h1, h2, h3, or_self, if_false]
    exact ih fun d hd => h d (List.mem_cons_of_mem _ hd)

/-- A quote stays open as long as it does not occur again. -/
theorem quoteAfter?_quoted {q : Char} {s : List Char} (h : q ∉ s) :
    quoteAfter? (some q) s = some (some q) := by
  induction s with
  | nil => rfl
  | cons c s ih =>
    simp only [List.mem_cons, not_or] at h
    have hc : c ≠ q := fun hc => h.1 hc.symm
    simp only [quoteAfter?, if_neg hc]
    exact ih h.2

theorem foldl_step_tag {quote quote' : Option Char} {s : List Char}
    (h : quoteAfter? quote s = some quote') (held : List Char) (pieces : List Piece) :
    s.foldl Cutting.step ⟨.tag quote, held, pieces⟩ =
      ⟨.tag quote', s.reverse ++ held, pieces⟩ := by
  induction s generalizing quote held with
  | nil =>
    simp only [quoteAfter?, Option.some.injEq] at h
    rw [h]
    rfl
  | cons c s ih =>
    have e : Cutting.step ⟨.tag quote, held, pieces⟩ c =
        ⟨.tag (match quote with
          | none => if c = '\x22' ∨ c = '\x27' then some c else none
          | some q => if c = q then none else some q), c :: held, pieces⟩ := by
      cases quote with
      | none =>
        simp only [quoteAfter?] at h
        split at h
        · cases h
        · next hc =>
          simp only [Cutting.step, Cutting.stepTag, if_neg hc, Cutting.hold]
          split <;> rfl
      | some q => rfl
    rw [List.foldl_cons, e]
    cases quote with
    | none =>
      simp only [quoteAfter?] at h
      split at h
      · cases h
      · rw [ih h]; simp
    | some q => rw [ih h]; simp

/-- A tag is whole if it begins neither a declaration nor an instruction, and no quote is open at
its end. -/
theorem isWhole_tag {c : Char} {s : List Char} (h1 : c ≠ '!') (h2 : c ≠ '?')
    (h : quoteAfter? none (c :: s) = some none) : (Piece.tag (c :: s)).IsWhole := by
  have e := foldl_step_tag h [] []
  have hb : Cutting.step ⟨.bracket, [], []⟩ c = Cutting.step ⟨.tag none, [], []⟩ c := by
    simp only [Cutting.step, if_neg h1, if_neg h2, Cutting.stepTag, Cutting.close, Cutting.hold]
  rw [List.foldl_cons, ← hb] at e
  show cut ('<' :: (c :: s ++ ['>'])) = _
  rw [cut, List.foldl_cons, List.cons_append, List.foldl_cons, List.foldl_append]
  rw [show Cutting.step {} '<' = ⟨.bracket, [], []⟩ from rfl, e]
  simp [Cutting.step, Cutting.stepTag, Cutting.close]

end MessageCatalog.Markup
