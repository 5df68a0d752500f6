import Mathlib.Tactic.WLOG
import MessageCatalog.Proofs.Lookup.Shown

/-!
# Counts in a text

A count is put in the place of one kind of marker after the other. Neither what a piece of the text
ends with nor the digits of the count go together with what stands behind them to a marker, so the
two passes do what one would do: a text is cut at its markers in one way, and the count stands in
the place of each of them, whichever kind it is (`replaceCount_cut`).
-/

namespace MessageCatalog.Lookup

/-! ## Words in a text -/

section Words
variable {first : Char} {word others value s t : List Char}

/-- A word does not reach into a text that begins with none of its characters. -/
theorem prefix_of_prefix_append (ht : ∀ c ∈ t.head?, c ∉ word) (h : word <+: s ++ t) :
    word <+: s := by
  obtain hs | ⟨more, rfl⟩ := List.prefix_or_prefix_of_prefix h (List.prefix_append s t)
  · exact hs
  · rw [List.prefix_append_right_inj] at h
    cases more with
    | nil => simp
    | cons c more =>
      obtain ⟨rest, rfl⟩ := h
      exact absurd (by simp) (ht c rfl)

/-- Nor is a word found across the place where such a text begins. -/
theorem not_infix_append (hs : ¬first :: others <:+: s) (ht : ¬first :: others <:+: t)
    (hhead : ∀ c ∈ t.head?, c ∉ others) : ¬first :: others <:+: s ++ t := by
  induction s with
  | nil => exact ht
  | cons c s ih =>
    rw [List.infix_cons_iff, not_or] at hs
    rw [List.cons_append, List.infix_cons_iff, not_or]
    refine ⟨fun h => hs.1 ?_, ih hs.2⟩
    rw [List.cons_prefix_cons] at h ⊢
    exact ⟨h.1, prefix_of_prefix_append hhead h.2⟩

/-- A word does not begin in a text that does not have its first character. -/
theorem not_infix_append_of_notMem (hs : first ∉ s) (ht : ¬first :: others <:+: t) :
    ¬first :: others <:+: s ++ t := by
  induction s with
  | nil => exact ht
  | cons c s ih =>
    rw [List.mem_cons, not_or] at hs
    rw [List.cons_append, List.infix_cons_iff, List.cons_prefix_cons, not_or]
    exact ⟨fun h => hs.1 h.1, ih hs.2⟩

theorem replaceAll_nil : replaceAll first others value [] = [] := by
  rw [replaceAll]

/-- A character at which the word does not stand is kept. -/
theorem replaceAll_cons {c : Char} (h : ¬first :: others <+: c :: s) :
    replaceAll first others value (c :: s) = c :: replaceAll first others value s := by
  rw [replaceAll, if_neg]
  rintro ⟨rfl, hothers⟩
  exact h (List.cons_prefix_cons.2 ⟨rfl, List.isPrefixOf_iff_prefix.1 hothers⟩)

/-- The word gives way to the text in its place. -/
theorem replaceAll_word :
    replaceAll first others value (first :: others ++ s) =
      value ++ replaceAll first others value s := by
  rw [List.cons_append, replaceAll, if_pos ⟨rfl, by simp⟩, List.drop_left]

/-- A text without the word is kept, whatever stands behind it that the word does not reach into. -/
theorem replaceAll_append (hs : ¬first :: others <:+: s) (hhead : ∀ c ∈ t.head?, c ∉ others) :
    replaceAll first others value (s ++ t) = s ++ replaceAll first others value t := by
  induction s with
  | nil => rfl
  | cons c s ih =>
    rw [List.infix_cons_iff, not_or] at hs
    have hc : ¬first :: others <+: c :: (s ++ t) := by
      intro h
      rw [List.cons_prefix_cons] at h
      exact hs.1 (List.cons_prefix_cons.2 ⟨h.1, prefix_of_prefix_append hhead h.2⟩)
    rw [List.cons_append, replaceAll_cons hc, ih hs.2, List.cons_append]

/-- A text without the first character of the word is kept, whatever stands behind it. -/
theorem replaceAll_append_of_notMem (hs : first ∉ s) :
    replaceAll first others value (s ++ t) = s ++ replaceAll first others value t := by
  induction s with
  | nil => rfl
  | cons c s ih =>
    rw [List.mem_cons, not_or] at hs
    have hc : ¬first :: others <+: c :: (s ++ t) := fun h =>
      hs.1 (List.cons_prefix_cons.1 h).1
    rw [List.cons_append, replaceAll_cons hc, ih hs.2, List.cons_append]

end Words

/-! ## Cutting a text at its markers -/

/-- A marker for the count: `%n`, or `%Ln` where the count is to be written as the locale does. -/
inductive CountMarker where
  | plain
  | localized
  deriving DecidableEq, Repr

/-- What follows the percent sign of a marker. -/
def CountMarker.tail : CountMarker → List Char
  | plain => ['n']
  | localized => ['L', 'n']

def CountMarker.chars (m : CountMarker) : List Char :=
  '%' :: m.tail

/-- A text in which no marker stands. -/
def IsBare (s : List Char) : Prop :=
  ∀ m : CountMarker, ¬m.chars <:+: s

/-- A text cut at markers: the piece in front of the first one, and each marker with the piece
behind it. -/
structure CountCut where
  first : List Char
  others : List (CountMarker × List Char) := []
  deriving DecidableEq, Repr

/-- The pieces behind markers, with something in the place of each marker. -/
def fillOthers (f : CountMarker → List Char) (others : List (CountMarker × List Char)) :
    List Char :=
  others.flatMap fun (m, piece) => f m ++ piece

namespace CountCut

/-- The pieces of a text, with something in the place of each marker. -/
def fill (f : CountMarker → List Char) (cut : CountCut) : List Char :=
  cut.first ++ fillOthers f cut.others

/-- The text is cut at all its markers: no piece has one. -/
structure IsCutOf (cut : CountCut) (s : List Char) : Prop where
  fill : cut.fill CountMarker.chars = s
  first : IsBare cut.first
  others : ∀ e ∈ cut.others, IsBare e.2

end CountCut

/-- A text that does not go on with a marker which has begun in front of it. -/
def IsApart (s : List Char) : Prop :=
  ∀ c ∈ s.head?, ∀ m : CountMarker, c ∉ m.tail

theorem isApart_nil : IsApart [] := by
  simp [IsApart]

theorem isApart_cons {c : Char} (hl : c ≠ 'L') (hn : c ≠ 'n') (s : List Char) :
    IsApart (c :: s) := by
  rintro _ ⟨⟩ m
  cases m <;> simp [CountMarker.tail, hl, hn]

theorem isApart_chars (m : CountMarker) : IsApart m.chars :=
  isApart_cons (by decide) (by decide) _

theorem IsApart.append {s : List Char} (h : IsApart s) (hne : s ≠ []) (t : List Char) :
    IsApart (s ++ t) := by
  obtain ⟨c, s, rfl⟩ := List.exists_cons_of_ne_nil hne
  exact h

/-- A marker that begins in a text ends in it when what goes on is apart from it. -/
theorem CountMarker.prefix_of_append {m : CountMarker} {s t : List Char} (hne : s ≠ [])
    (ht : IsApart t) (h : m.chars <+: s ++ t) : m.chars <+: s := by
  obtain ⟨c, s, rfl⟩ := List.exists_cons_of_ne_nil hne
  rw [chars, List.cons_append, List.cons_prefix_cons] at h
  rw [chars, List.cons_prefix_cons]
  exact ⟨h.1, prefix_of_prefix_append (fun c hc => ht c hc m) h.2⟩

/-- What stands in the places of the markers keeps the pieces apart. -/
def KeepsApart (f : CountMarker → List Char) : Prop :=
  ∀ m, f m ≠ [] ∧ IsApart (f m)

theorem keepsApart_chars : KeepsApart CountMarker.chars := fun m =>
  ⟨List.cons_ne_nil _ _, isApart_chars m⟩

section Fill
variable {f g : CountMarker → List Char}

theorem isApart_fillOthers (hf : KeepsApart f) (others : List (CountMarker × List Char)) :
    IsApart (fillOthers f others) := by
  cases others with
  | nil => exact isApart_nil
  | cons e others =>
    rw [fillOthers, List.flatMap_cons, List.append_assoc]
    exact (hf e.1).2.append (hf e.1).1 _

/-- A pass over a text that is cut keeps the pieces, whatever it does to what is between them. -/
theorem replaceAll_fill {m : CountMarker} {value : List Char} (hf : KeepsApart f)
    (hstep : ∀ k t, replaceAll '%' m.tail value (f k ++ t) =
      g k ++ replaceAll '%' m.tail value t)
    {cut : CountCut} (hfirst : IsBare cut.first) (hothers : ∀ e ∈ cut.others, IsBare e.2) :
    replaceAll '%' m.tail value (cut.fill f) = cut.fill g := by
  obtain ⟨first, others⟩ := cut
  have hpiece : ∀ piece rest, IsBare piece → replaceAll '%' m.tail value
      (piece ++ fillOthers f rest) = piece ++ replaceAll '%' m.tail value (fillOthers f rest) :=
    fun piece rest hb => replaceAll_append (hb m) fun c hc => isApart_fillOthers hf rest c hc m
  suffices h : replaceAll '%' m.tail value (fillOthers f others) = fillOthers g others by
    rw [CountCut.fill, hpiece first others hfirst, h, CountCut.fill]
  clear hfirst
  induction others with
  | nil => exact replaceAll_nil
  | cons e others ih =>
    obtain ⟨he, hothers⟩ := List.forall_mem_cons.1 hothers
    simp only [fillOthers, List.flatMap_cons, List.append_assoc] at hpiece ih ⊢
    rw [hstep, hpiece _ _ he, ih hothers]

end Fill

/-! ## The one way to cut a text -/

theorem isBare_nil : IsBare [] := by
  intro m
  simp [CountMarker.chars]

/-- Pieces without markers, with something between them that keeps them apart, have no marker. -/
theorem isBare_fill {value : List Char} (hne : value ≠ []) (hv : IsApart value)
    (hp : '%' ∉ value) {cut : CountCut} (hfirst : IsBare cut.first)
    (hothers : ∀ e ∈ cut.others, IsBare e.2) : IsBare (cut.fill fun _ => value) := by
  obtain ⟨first, others⟩ := cut
  have happend : ∀ {s t}, IsBare s → IsApart t → IsBare t → IsBare (s ++ t) :=
    fun hs ha ht m => not_infix_append (hs m) (ht m) fun c hc => ha c hc m
  refine happend hfirst (isApart_fillOthers (fun _ => ⟨hne, hv⟩) others) ?_
  clear hfirst
  induction others with
  | nil => exact isBare_nil
  | cons e others ih =>
    obtain ⟨he, hothers⟩ := List.forall_mem_cons.1 hothers
    rw [fillOthers, List.flatMap_cons, List.append_assoc]
    intro m
    refine not_infix_append_of_notMem hp ?_
    exact happend he (isApart_fillOthers (fun _ => ⟨hne, hv⟩) others) (ih hothers) m

/-- Two markers do not begin a text together. -/
theorem CountMarker.chars_append_inj {k m : CountMarker} {s t : List Char}
    (h : k.chars ++ s = m.chars ++ t) : k = m ∧ s = t := by
  cases k <;> cases m <;> simp_all [chars, tail]

/-- Of two ways to cut a text, neither has a marker in front of the first one of the other. -/
theorem piece_eq {s t : List Char} {rest others : List (CountMarker × List Char)}
    (hs : IsBare s) (ht : IsBare t)
    (h : s ++ fillOthers CountMarker.chars rest = t ++ fillOthers CountMarker.chars others) :
    s = t := by
  wlog hlen : s.length ≤ t.length generalizing s t rest others
  · exact (this ht hs h.symm (Nat.le_of_not_le hlen)).symm
  obtain ⟨more, rfl⟩ : s <+: t :=
    List.prefix_of_prefix_length_le ⟨_, h⟩ (List.prefix_append _ _) hlen
  rw [List.append_assoc, List.append_cancel_left_eq] at h
  by_cases hmore : more = []
  · rw [hmore, List.append_nil]
  cases rest with
  | nil =>
    rw [fillOthers, List.flatMap_nil] at h
    exact absurd (List.append_eq_nil_iff.1 h.symm).1 hmore
  | cons e rest =>
    rw [fillOthers, List.flatMap_cons, List.append_assoc] at h
    have hmarker : e.1.chars <+: more :=
      CountMarker.prefix_of_append hmore (isApart_fillOthers keepsApart_chars others) ⟨_, h⟩
    exact absurd (hmarker.isInfix.trans (List.suffix_append s more).isInfix) (ht e.1)

/-- Texts that agree up to their markers agree behind them, and have the same markers. -/
theorem fillOthers_inj {rest others : List (CountMarker × List Char)}
    (hrest : ∀ e ∈ rest, IsBare e.2) (hothers : ∀ e ∈ others, IsBare e.2)
    (h : fillOthers CountMarker.chars rest = fillOthers CountMarker.chars others) :
    rest = others := by
  induction rest generalizing others with
  | nil =>
    cases others with
    | nil => rfl
    | cons e others => cases h
  | cons e rest ih =>
    cases others with
    | nil => cases h
    | cons d others =>
      obtain ⟨he, hrest⟩ := List.forall_mem_cons.1 hrest
      obtain ⟨hd, hothers⟩ := List.forall_mem_cons.1 hothers
      simp only [fillOthers, List.flatMap_cons, List.append_assoc] at h ih
      obtain ⟨hmarker, h⟩ := CountMarker.chars_append_inj h
      have hpiece := piece_eq he hd h
      rw [hpiece, List.append_cancel_left_eq] at h
      rw [Prod.ext hmarker hpiece, ih hrest hothers h]

theorem CountCut.IsCutOf.unique {cut other : CountCut} {s : List Char} (h : cut.IsCutOf s)
    (h' : other.IsCutOf s) : cut = other := by
  obtain ⟨first, rest⟩ := cut
  obtain ⟨first', others⟩ := other
  have he : first ++ fillOthers CountMarker.chars rest =
      first' ++ fillOthers CountMarker.chars others := h.fill.trans h'.fill.symm
  obtain rfl : first = first' := piece_eq h.first h'.first he
  rw [List.append_cancel_left_eq] at he
  exact congrArg (CountCut.mk first) (fillOthers_inj h.others h'.others he)

theorem exists_isCutOf (s : List Char) : ∃ cut : CountCut, cut.IsCutOf s := by
  induction hn : s.length using Nat.strongRecOn generalizing s with
  | ind n ih =>
    by_cases hm : ∃ m : CountMarker, m.chars <+: s
    · obtain ⟨m, rest, rfl⟩ := hm
      have hlt : rest.length < n := by
        rw [← hn, List.length_append, CountMarker.chars, List.length_cons]
        omega
      obtain ⟨cut, h⟩ := ih rest.length hlt rest rfl
      refine ⟨⟨[], (m, cut.first) :: cut.others⟩, ?_, isBare_nil, ?_⟩
      · rw [← h.fill]
        simp [CountCut.fill, fillOthers]
      · exact List.forall_mem_cons.2 ⟨h.first, h.others⟩
    · cases s with
      | nil => exact ⟨⟨[], []⟩, rfl, isBare_nil, by simp⟩
      | cons c s =>
        obtain ⟨cut, h⟩ := ih s.length (by rw [← hn]; simp) s rfl
        refine ⟨⟨c :: cut.first, cut.others⟩, ?_, fun m => ?_, h.others⟩
        · rw [← h.fill]
          rfl
        · rw [List.infix_cons_iff, not_or]
          refine ⟨fun hp => hm ⟨m, ?_⟩, h.first m⟩
          rw [← h.fill]
          exact hp.trans (List.prefix_append (c :: cut.first) _)

/-! ## The digits of a count -/

/-- A count is written as integers are. -/
theorem toList_toString (n : Int) : (toString n).toList = Text.signedDecimal n := by
  rw [Int.toString_eq_repr, Int.repr_eq_if, Text.signedDecimal]
  by_cases h : n < 0
  · have hn : (-n).toNat = n.natAbs := by omega
    rw [if_neg (Int.not_le.2 h), if_pos h, String.toList_append, Nat.toList_repr, hn]
    rfl
  · have hn : n.toNat = n.natAbs := by omega
    rw [if_pos (Int.not_lt.1 h), if_neg h, Nat.toList_repr, hn]
    rfl

/-- The digits of a count, and the sign in front of them, are in no marker. -/
theorem ne_of_mem_signedDecimal {n : Int} {c : Char} (h : c ∈ Text.signedDecimal n) :
    c ≠ '%' ∧ c ≠ 'L' ∧ c ≠ 'n' := by
  have hdigit : ∀ k, c ∈ Text.decimal k → c.isDigit = true := fun k hk =>
    Nat.isDigit_of_mem_toDigits (by decide) (by decide) hk
  have hplain : c.isDigit = true ∨ c = '-' := by
    unfold Text.signedDecimal at h
    split at h
    · rcases List.mem_cons.1 h with h | h
      · exact .inr h
      · exact .inl (hdigit _ h)
    · exact .inl (hdigit _ h)
  rcases hplain with hc | rfl
  · refine ⟨?_, ?_, ?_⟩ <;> rintro rfl <;> cases hc
  · decide

theorem isApart_signedDecimal (n : Int) : IsApart (Text.signedDecimal n) := by
  obtain ⟨c, digits, h⟩ := List.exists_cons_of_ne_nil (signedDecimal_ne_nil n)
  obtain ⟨-, hl, hn⟩ := ne_of_mem_signedDecimal (n := n) (c := c) (by simp [h])
  rw [h]
  exact isApart_cons hl hn digits

/-! ## Both passes -/

/-- What stands in the places of the markers when the first kind has given way. -/
def halfFilled (value : List Char) : CountMarker → List Char
  | .plain => CountMarker.plain.chars
  | .localized => value

/-- Two passes, one for each kind of marker, put the value in the places of all markers. -/
theorem replaceAll_replaceAll {value s : List Char} {cut : CountCut} (h : cut.IsCutOf s)
    (hne : value ≠ []) (hv : IsApart value) (hp : '%' ∉ value) :
    replaceAll '%' ['n'] value (replaceAll '%' ['L', 'n'] value s) = cut.fill fun _ => value := by
  have hlong : replaceAll '%' CountMarker.localized.tail value (cut.fill CountMarker.chars) =
      cut.fill (halfFilled value) := by
    refine replaceAll_fill keepsApart_chars (fun k t => ?_) h.first h.others
    cases k with
    | plain =>
      show replaceAll '%' ['L', 'n'] value ('%' :: 'n' :: t) = '%' :: 'n' :: _
      rw [replaceAll_cons (by simp), replaceAll_cons (by simp)]
      rfl
    | localized => exact replaceAll_word
  have hshort : replaceAll '%' CountMarker.plain.tail value (cut.fill (halfFilled value)) =
      cut.fill fun _ => value := by
    refine replaceAll_fill (fun k => ?_) (fun k t => ?_) h.first h.others
    · cases k with
      | plain => exact keepsApart_chars .plain
      | localized => exact ⟨hne, hv⟩
    · cases k with
      | plain => exact replaceAll_word
      | localized => exact replaceAll_append_of_notMem hp
  rw [h.fill] at hlong
  exact (congrArg _ hlong).trans hshort

/-- A text is cut at its markers for a count in one way. Whatever the count is, the pieces are kept
as they are and in their order, the count stands in the place of each marker of either kind, written
as integers are, and no marker is left. -/
theorem replaceCount_cut (template : String) :
    ∃ cut : CountCut, (∀ other : CountCut, other.IsCutOf template.toList ↔ other = cut) ∧
      ∀ n : Int, replaceCount template n = String.ofList (cut.fill fun _ => (toString n).toList) ∧
        IsBare (replaceCount template n).toList := by
  obtain ⟨cut, h⟩ := exists_isCutOf template.toList
  refine ⟨cut, fun other => ⟨fun h' => h'.unique h, fun he => he ▸ h⟩, fun n => ?_⟩
  have hp : '%' ∉ Text.signedDecimal n := fun hc => (ne_of_mem_signedDecimal hc).1 rfl
  have hne := signedDecimal_ne_nil n
  have ha := isApart_signedDecimal n
  have hfill : replaceCount template n =
      String.ofList (cut.fill fun _ => Text.signedDecimal n) :=
    congrArg String.ofList (replaceAll_replaceAll h hne ha hp)
  rw [hfill, toList_toString, String.toList_ofList]
  exact ⟨rfl, isBare_fill hne ha hp h.first h.others⟩

example : replaceCount "%%n%Ln%L%nn" (-5) = "%-5-5%L-5n" := by decide +kernel

end MessageCatalog.Lookup
