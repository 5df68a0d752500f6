import MessageCatalog.Markup.Piece
import MessageCatalog.Proofs.Utf8

/-!
# Other readings of the same bytes

Bytes that are read in the wrong encoding give other characters, but in encodings that agree with
ASCII the characters of ASCII stay as they are, and none of those that markup ends with is added. So
one reading is a view of the other (`IsViewOf`): stretches outside ASCII have been replaced by
others.
-/

namespace MessageCatalog.Encoding

/-- One of the characters with which markup ends in front of the root. -/
def isEnding (c : Char) : Bool :=
  c == '>' || c == '?' || c == '-'

/-- A character outside ASCII, or the one with the number zero, which stands for numbers that are no
character. -/
def isOther (c : Char) : Bool :=
  c.toNat == 0 || decide (0x80 ≤ c.toNat)

/-- The first text is the second one with stretches of other characters replaced by such as end
nothing. -/
inductive IsViewOf : List Char → List Char → Prop
  | nil : IsViewOf [] []
  | same (c : Char) {s t : List Char} (h : IsViewOf s t) : IsViewOf (c :: s) (c :: t)
  | other {x y : Char} {xs ys s t : List Char} (hx : ∀ c ∈ x :: xs, isEnding c = false)
    (hy : ∀ c ∈ y :: ys, isOther c = true) (h : IsViewOf s t) :
    IsViewOf (x :: xs ++ s) (y :: ys ++ t)

theorem isOther_ofNat {n : Nat} (h : 0x80 ≤ n) : isOther (Char.ofNat n) = true := by
  by_cases hv : n.isValidChar
  · simp only [isOther, Utf8.toNat_char hv, Bool.or_eq_true, decide_eq_true_eq]
    exact .inr h
  · rw [Char.ofNat, dif_neg hv]
    rfl

theorem isOther_of_isEnding {c : Char} (h : isEnding c = true) : isOther c = false := by
  simp only [isEnding, Bool.or_eq_true, beq_iff_eq] at h
  rcases h with (rfl | rfl) | rfl <;> rfl

theorem isEnding_of_isOther {c : Char} (h : isOther c = true) : isEnding c = false := by
  cases he : isEnding c with
  | false => rfl
  | true => rw [isOther_of_isEnding he] at h; cases h

namespace IsViewOf

variable {s s' t t' w : List Char}

theorem refl : ∀ s : List Char, IsViewOf s s
  | [] => .nil
  | c :: s => .same c (refl s)

theorem append (h : IsViewOf s t) (h' : IsViewOf s' t') : IsViewOf (s ++ s') (t ++ t') := by
  induction h with
  | nil => exact h'
  | same c _ ih => exact .same c ih
  | other hx hy _ ih =>
    rw [List.append_assoc, List.append_assoc]
    exact .other hx hy ih

/-- Characters that end nothing in the place of others. -/
theorem of_ne_nil {xs ys : List Char} (hx : xs ≠ []) (hy : ys ≠ [])
    (hxs : ∀ c ∈ xs, isEnding c = false) (hys : ∀ c ∈ ys, isOther c = true) (h : IsViewOf s t) :
    IsViewOf (xs ++ s) (ys ++ t) := by
  obtain ⟨x, xs, rfl⟩ := List.exists_cons_of_ne_nil hx
  obtain ⟨y, ys, rfl⟩ := List.exists_cons_of_ne_nil hy
  exact .other hxs hys h

/-- A character of ASCII is seen. -/
theorem of_cons {c : Char} (h : IsViewOf s (c :: t)) (hc : isOther c = false) :
    ∃ u, s = c :: u ∧ IsViewOf u t := by
  generalize ht : c :: t = whole at h
  cases h with
  | nil => cases ht
  | same d h =>
    cases ht
    exact ⟨_, rfl, h⟩
  | other hx hy h =>
    cases ht
    rw [hy c List.mem_cons_self] at hc
    cases hc

/-- A word of ASCII is seen. -/
theorem of_append (h : IsViewOf s (w ++ t)) (hw : ∀ c ∈ w, isOther c = false) :
    ∃ u, s = w ++ u ∧ IsViewOf u t := by
  induction w generalizing s with
  | nil => exact ⟨s, rfl, h⟩
  | cons c w ih =>
    obtain ⟨u, rfl, hu⟩ := of_cons h (hw c List.mem_cons_self)
    obtain ⟨v, rfl, hv⟩ := ih hu fun d hd => hw d (List.mem_cons_of_mem c hd)
    exact ⟨v, rfl, hv⟩

/-- What begins with the end of markup in one reading begins with it in the other. -/
theorem prefix_iff (h : IsViewOf s t) (hw : ∀ c ∈ w, isEnding c = true) :
    w <+: s ↔ w <+: t := by
  constructor
  · intro hp
    induction w generalizing s t with
    | nil => exact List.nil_prefix
    | cons c w ih =>
      cases h with
      | nil => exact hp
      | same d h =>
        obtain ⟨rfl, hrest⟩ := List.cons_prefix_cons.1 hp
        exact List.cons_prefix_cons.2
          ⟨rfl, ih h (fun e he => hw e (List.mem_cons_of_mem c he)) hrest⟩
      | @other x y xs ys s t hx hy h =>
        have hxc : c = x := (List.cons_prefix_cons.1 hp).1
        have hends := hw c List.mem_cons_self
        rw [hxc, hx x List.mem_cons_self] at hends
        cases hends
  · rintro ⟨u, rfl⟩
    obtain ⟨v, rfl, -⟩ := of_append h fun c hc => isOther_of_isEnding (hw c hc)
    exact List.prefix_append _ _

end IsViewOf

end MessageCatalog.Encoding
