import MessageCatalog.Lookup.Substitution
import MessageCatalog.Text.Marker

/-!
# Which place markers are filled in

The check of place markers and the substitution of arguments read markers each in their own way. The
check knows numbers from 1 to 99 without a leading zero, with or without an `L` in front. The
substitution leaves markers with an `L` alone and takes a zero in front of a digit, and otherwise
fills in exactly the markers of the check. So both agree on a text when no marker in it has an `L`
or a zero in front of its number, and only then (`substitute_eq_fill`).

Behind its percent sign a marker holds no other one, so every percent sign of a text is looked at,
and what becomes of a text can be told from what is read behind each of them (`fill_congr` and
`filling_of_fill_eq`).
-/

namespace MessageCatalog.Lookup

/-! ## Filling in markers of some kind -/

/-- What recognises a marker: the number of its argument and its width, given the text behind a
percent sign. -/
abbrev MarkerReader := List Char → Option (Nat × Nat)

/-- Put arguments in the places of markers, from the left and without overlap, and copy all other
characters. Arguments are numbered from one. -/
def fill (marker? : MarkerReader) (args : List String) (s : List Char) : List Char :=
  match s with
  | [] => []
  | c :: s =>
    if c = '%' then
      match marker? s with
      | some (n, width) => (args.getD (n - 1) "").toList ++ fill marker? args (s.drop width)
      | none => c :: fill marker? args s
    else c :: fill marker? args s
  termination_by s.length
  decreasing_by all_goals simp only [List.length_drop, List.length_cons]; omega

/-- The markers with numbers that the check of place markers finds. -/
def checked? : MarkerReader := fun s =>
  match Text.markerName? s with
  | some (name, rest) =>
    if name = ['n'] then none else some (numberOf name, s.length - rest.length)
  | none => none

/-- The markers of the check that have no `L`. -/
def numbered? : MarkerReader := fun s =>
  (Text.argument? s).map fun (name, _) => (numberOf name, name.length)

/-- A digit other than zero stands at the start. -/
def startsNumber (s : List Char) : Bool :=
  s.head?.any fun c => c.isDigit && c != '0'

/-- The markers of the check that have no `L`, and single digits behind a zero. -/
def filled? : MarkerReader
  | '0' :: s => if startsNumber s then some (numberOf (s.take 1), 2) else none
  | s => numbered? s

/-- The text starts with an `L` or a zero in front of a number. -/
def StartsOther (s : List Char) : Prop :=
  ∃ t, startsNumber t = true ∧ (s = 'L' :: t ∨ s = '0' :: t)

/-- Behind some percent sign there is a marker that one of the two alone reads. -/
def HasOtherMarker (s : List Char) : Prop :=
  ∃ r, '%' :: r <:+ s ∧ StartsOther r

/-- What becomes of a text depends on an argument, here counted from zero. -/
def Consumes (template : String) (index : Nat) : Prop :=
  ∃ args arg, 99 ≤ args.length ∧ substitute template (args.set index arg) ≠ substitute template args

/-! ## Digits at the start -/

theorem numberOf_one (c : Char) : numberOf [c] = c.toNat - 48 := by
  simp [numberOf]

theorem numberOf_two (c d : Char) :
    numberOf [c, d] = 10 * (c.toNat - 48) + (d.toNat - 48) := by
  simp [numberOf]

theorem bounds_of_isDigit {c : Char} (h : c.isDigit = true) : 48 ≤ c.toNat ∧ c.toNat ≤ 57 := by
  unfold Char.isDigit at h
  simp only [ge_iff_le, Bool.and_eq_true, decide_eq_true_eq] at h
  exact h

theorem toNat_pos_of_ne_zero {c : Char} (h : c.isDigit = true) (h0 : c ≠ '0') :
    0 < c.toNat - 48 := by
  have hl := (bounds_of_isDigit h).1
  have hne : c.toNat ≠ 48 := fun he => h0 (Char.toNat_inj.1 he)
  omega

theorem startsNumber_cons (c : Char) (s : List Char) :
    startsNumber (c :: s) = (c.isDigit && c != '0') := rfl

theorem leadingDigits_of_not_isDigit {c : Char} (h : c.isDigit = false) (s : List Char) :
    leadingDigits (c :: s) = [] := by
  simp [leadingDigits, h]

theorem leadingDigits_one {c : Char} (h : c.isDigit = true) : leadingDigits [c] = [c] := by
  simp [leadingDigits, h]

theorem leadingDigits_cons {c : Char} (h : c.isDigit = true) (d : Char) (s : List Char) :
    leadingDigits (c :: d :: s) = if d.isDigit then [c, d] else [c] := by
  cases hd : d.isDigit <;> simp [leadingDigits, h, hd]

theorem isPrefix_leadingDigits (s : List Char) : leadingDigits s <+: s :=
  (List.takeWhile_prefix _).trans (List.take_prefix _ _)

theorem isDigit_of_mem_leadingDigits {s : List Char} {c : Char} (h : c ∈ leadingDigits s) :
    c.isDigit = true :=
  List.all_eq_true.1 List.all_takeWhile c h

/-- There are no digits, or one, or two. -/
theorem leadingDigits_cases (s : List Char) :
    leadingDigits s = [] ∨ (∃ c, c.isDigit = true ∧ leadingDigits s = [c]) ∨
      ∃ c d, c.isDigit = true ∧ d.isDigit = true ∧ leadingDigits s = [c, d] := by
  match s with
  | [] => exact .inl rfl
  | [c] =>
    cases hc : c.isDigit with
    | false => exact .inl (leadingDigits_of_not_isDigit hc [])
    | true => exact .inr (.inl ⟨c, hc, leadingDigits_one hc⟩)
  | c :: d :: s =>
    cases hc : c.isDigit with
    | false => exact .inl (leadingDigits_of_not_isDigit hc (d :: s))
    | true =>
      have h := leadingDigits_cons hc d s
      cases hd : d.isDigit with
      | false => exact .inr (.inl ⟨c, hc, by rw [h, hd]; rfl⟩)
      | true => exact .inr (.inr ⟨c, d, hc, hd, by rw [h, hd]; rfl⟩)

theorem numberOf_leadingDigits_lt (s : List Char) : numberOf (leadingDigits s) < 100 := by
  rcases leadingDigits_cases s with h | ⟨c, hc, h⟩ | ⟨c, d, hc, hd, h⟩
  · rw [h]; decide
  · have hn := bounds_of_isDigit hc
    rw [h, numberOf_one]
    omega
  · have hn := bounds_of_isDigit hc
    have hm := bounds_of_isDigit hd
    rw [h, numberOf_two]
    omega

theorem numberOf_leadingDigits_pos {s : List Char} (h : startsNumber s = true) :
    0 < numberOf (leadingDigits s) := by
  match s with
  | [c] =>
    simp only [startsNumber_cons, Bool.and_eq_true, bne_iff_ne, ne_eq] at h
    rw [leadingDigits_one h.1, numberOf_one]
    exact toNat_pos_of_ne_zero h.1 h.2
  | c :: d :: s =>
    simp only [startsNumber_cons, Bool.and_eq_true, bne_iff_ne, ne_eq] at h
    have hpos := toNat_pos_of_ne_zero h.1 h.2
    rw [leadingDigits_cons h.1]
    split
    · rw [numberOf_two]; omega
    · rw [numberOf_one]; exact hpos

/-- A number of the check has all the digits there are, when the first is not zero. -/
theorem argument?_digits (s : List Char) :
    Text.argument? s =
      if startsNumber s then some (leadingDigits s, s.drop (leadingDigits s).length) else none := by
  match s with
  | [] => rfl
  | [c] =>
    cases hc : c.isDigit with
    | false => simp [Text.argument?, startsNumber_cons, hc]
    | true => simp [Text.argument?, startsNumber_cons, hc, leadingDigits_one hc]
  | c :: d :: s =>
    cases hc : c.isDigit with
    | false => simp [Text.argument?, startsNumber_cons, hc]
    | true =>
      rw [leadingDigits_cons hc]
      cases hd : d.isDigit <;> simp [Text.argument?, startsNumber_cons, hc, hd]

theorem numbered?_eq (s : List Char) :
    numbered? s =
      if startsNumber s then some (numberOf (leadingDigits s), (leadingDigits s).length)
      else none := by
  rw [numbered?, argument?_digits]
  split <;> rfl

/-! ## The markers that are filled in -/

theorem filled?_of_ne {s : List Char} (h : s.head? ≠ some '0') : filled? s = numbered? s := by
  unfold filled?
  split
  · simp at h
  · rfl

/-- What is filled in is told by the digits behind the percent sign, unless they say zero. -/
theorem filled?_eq (s : List Char) :
    filled? s = if numberOf (leadingDigits s) = 0 then none
      else some (numberOf (leadingDigits s), (leadingDigits s).length) := by
  match s with
  | [] => rfl
  | c :: s =>
    by_cases h0 : c = '0'
    · subst h0
      cases s with
      | nil => rfl
      | cons d s =>
        rw [leadingDigits_cons rfl]
        cases hd : d.isDigit with
        | false => simp [filled?, startsNumber_cons, hd, numberOf_one]
        | true =>
          by_cases hd0 : d = '0'
          · subst hd0; simp [filled?, startsNumber_cons, numberOf_two]
          · have hpos := toNat_pos_of_ne_zero hd hd0
            rw [if_pos rfl, numberOf_two, if_neg (by simp; omega)]
            simp [filled?, startsNumber_cons, hd, hd0, numberOf_one]
    · rw [filled?_of_ne (by simpa using h0), numbered?_eq]
      by_cases hs : startsNumber (c :: s) = true
      · rw [if_pos hs, if_neg (Nat.ne_of_gt (numberOf_leadingDigits_pos hs))]
      · have hc : c.isDigit = false := by simpa [startsNumber_cons, h0] using hs
        rw [if_neg hs, leadingDigits_of_not_isDigit hc]
        rfl

theorem filled?_eq_some_iff {s : List Char} {n width : Nat} :
    filled? s = some (n, width) ↔
      n ≠ 0 ∧ n = numberOf (leadingDigits s) ∧ width = (leadingDigits s).length := by
  rw [filled?_eq]
  split
  · next h => exact ⟨fun hn => absurd hn (by simp), fun ⟨hn, he, _⟩ => absurd (he.trans h) hn⟩
  · next h =>
    rw [Option.some.injEq, Prod.mk.injEq]
    exact ⟨fun ⟨hn, hw⟩ => ⟨hn ▸ h, hn.symm, hw.symm⟩, fun ⟨_, hn, hw⟩ => ⟨hn.symm, hw.symm⟩⟩

/-- What a marker takes has no percent sign in it. -/
theorem percent_not_mem_filled {s : List Char} {n width : Nat} (h : filled? s = some (n, width)) :
    '%' ∉ s.take width := by
  intro hm
  obtain ⟨-, -, rfl⟩ := filled?_eq_some_iff.1 h
  rw [← List.prefix_iff_eq_take.1 (isPrefix_leadingDigits s)] at hm
  cases isDigit_of_mem_leadingDigits hm

/-- When there are arguments for all numbers, a percent sign stands for what is filled in. -/
theorem argument?_eq {args : List String} (ha : 99 ≤ args.length) (s : List Char) :
    argument? args s = (filled? s).map fun (n, _) => args.getD (n - 1) "" := by
  rw [filled?_eq]
  have hlt := numberOf_leadingDigits_lt s
  unfold argument?
  cases hn : numberOf (leadingDigits s) with
  | zero => simp
  | succ n =>
    have hi : n < args.length := by omega
    simp [hi]

theorem substituteFrom_eq {args : List String} (ha : 99 ≤ args.length) (done : String)
    (s : List Char) :
    substituteFrom args done s = done ++ String.ofList (fill filled? args s) := by
  induction s using fill.induct filled? generalizing done with
  | case1 => simp [substituteFrom, fill]
  | case2 s n width hm ih =>
    have hw : width = (leadingDigits s).length := (filled?_eq_some_iff.1 hm).2.2
    subst hw
    rw [substituteFrom, fill, if_pos rfl, if_pos rfl, argument?_eq ha, hm]
    simp only [Option.map_some, ih]
    simp [String.append_assoc]
  | case3 s hm ih =>
    rw [substituteFrom, fill, if_pos rfl, if_pos rfl, argument?_eq ha, hm]
    simp only [Option.map_none, ih]
    rw [← String.append_singleton, String.append_assoc]
    simp
  | case4 c s hc ih =>
    rw [substituteFrom, fill, if_neg hc, if_neg hc, ih, ← String.append_singleton,
      String.append_assoc]
    simp

/-- Substitution fills in its own markers, when there are arguments for all numbers. -/
theorem substitute_eq {args : List String} (ha : 99 ≤ args.length) (template : String) :
    substitute template args = String.ofList (fill filled? args template.toList) := by
  rw [substitute, substituteFrom_eq ha, String.empty_append]

/-! ## The markers of the check -/

theorem leadingDigits_ne_letter (s : List Char) : leadingDigits s ≠ ['n'] := by
  intro h
  have hd : Char.isDigit 'n' = true :=
    isDigit_of_mem_leadingDigits (s := s) (by rw [h]; exact List.mem_singleton_self _)
  cases hd

theorem markerName?_letter (s : List Char) : Text.markerName? ('n' :: s) = some (['n'], s) := rfl

theorem markerName?_of_ne {c : Char} (hl : c ≠ 'L') (hn : c ≠ 'n') (s : List Char) :
    Text.markerName? (c :: s) = Text.argument? (c :: s) := by
  simp [Text.markerName?, hl, hn]

theorem markerName?_flag_letter (s : List Char) :
    Text.markerName? ('L' :: 'n' :: s) = some (['n'], s) := rfl

theorem markerName?_flag {c : Char} (hn : c ≠ 'n') (s : List Char) :
    Text.markerName? ('L' :: c :: s) = Text.argument? (c :: s) := by
  simp [Text.markerName?, hn]

/-- What is read as the number at the end of some text is the marker of the whole text. -/
theorem checked?_number {s whole : List Char} (h : Text.markerName? whole = Text.argument? s)
    (hs : s <:+ whole) :
    checked? whole =
      (numbered? s).map fun (n, width) => (n, width + (whole.length - s.length)) := by
  have hle := hs.length_le
  have hlen := (isPrefix_leadingDigits s).length_le
  rw [checked?, h, numbered?, argument?_digits]
  by_cases hd : startsNumber s = true
  · simp only [if_pos hd, if_neg (leadingDigits_ne_letter s), Option.map_some, List.length_drop]
    have hw : whole.length - (s.length - (leadingDigits s).length) =
      (leadingDigits s).length + (whole.length - s.length) := by omega
    rw [hw]
  · simp only [if_neg hd, Option.map_none]

theorem checked?_of_ne {s : List Char} (h : s.head? ≠ some 'L') : checked? s = numbered? s := by
  match s with
  | [] => rfl
  | c :: s =>
    have hl : c ≠ 'L' := by simpa using h
    by_cases hn : c = 'n'
    · subst hn; simp [checked?, markerName?_letter, numbered?_eq, startsNumber_cons]
    · rw [checked?_number (markerName?_of_ne hl hn s) List.suffix_rfl]
      simp

/-- An `L` in front of a number makes the marker one wider. -/
theorem checked?_flag (s : List Char) :
    checked? ('L' :: s) = (numbered? s).map fun (n, width) => (n, width + 1) := by
  match s with
  | [] => rfl
  | c :: s =>
    by_cases hn : c = 'n'
    · subst hn; simp [checked?, markerName?_flag_letter, numbered?_eq, startsNumber_cons]
    · rw [checked?_number (markerName?_flag hn s) (List.suffix_cons _ _)]
      simp

/-- The check and the substitution read the same marker, unless an `L` or a zero is in front. -/
theorem filled?_eq_checked? {s : List Char} (h : ¬ StartsOther s) : filled? s = checked? s := by
  match s with
  | [] => rfl
  | c :: s =>
    by_cases hl : c = 'L'
    · subst hl
      have hs : ¬ startsNumber s = true := fun hs => h ⟨s, hs, .inl rfl⟩
      rw [checked?_flag, filled?_of_ne (by simp), numbered?_eq, numbered?_eq, if_neg hs]
      rfl
    · rw [checked?_of_ne (by simpa using hl)]
      by_cases h0 : c = '0'
      · subst h0
        have hs : ¬ startsNumber s = true := fun hs => h ⟨s, hs, .inr rfl⟩
        rw [filled?, if_neg hs, numbered?_eq]
        rfl
      · rw [filled?_of_ne (by simpa using h0)]

/-- One of the two alone reads any other marker. -/
theorem filled?_ne_checked? {s : List Char} (h : StartsOther s) :
    (filled? s).isSome ≠ (checked? s).isSome := by
  obtain ⟨t, ht, rfl | rfl⟩ := h
  · rw [checked?_flag, filled?_of_ne (by simp), numbered?_eq, numbered?_eq, if_pos ht]
    simp [startsNumber_cons]
  · rw [checked?_of_ne (by simp), filled?, if_pos ht, numbered?_eq]
    simp [startsNumber_cons]

/-- Where both read a marker they read the same one. -/
theorem filled?_eq_of_isSome {s : List Char} (hf : (filled? s).isSome = true)
    (hc : (checked? s).isSome = true) : filled? s = checked? s :=
  filled?_eq_checked? fun h => filled?_ne_checked? h (hf.trans hc.symm)

/-! ## Behind the percent signs -/

theorem suffix_cons_iff_of_ne {c : Char} (hc : c ≠ '%') (s r : List Char) :
    '%' :: r <:+ c :: s ↔ '%' :: r <:+ s := by
  simp [List.suffix_cons_iff, hc.symm]

theorem suffix_percent_iff (s r : List Char) :
    '%' :: r <:+ '%' :: s ↔ r = s ∨ '%' :: r <:+ s := by
  simp [List.suffix_cons_iff]

/-- The percent signs behind a stretch without one are those of the whole. -/
theorem suffix_append_iff {u : List Char} (hu : '%' ∉ u) (s r : List Char) :
    '%' :: r <:+ u ++ s ↔ '%' :: r <:+ s := by
  induction u with
  | nil => rfl
  | cons c u ih =>
    rw [List.mem_cons, not_or] at hu
    rw [List.cons_append, suffix_cons_iff_of_ne (Ne.symm hu.1), ih hu.2]

theorem suffix_drop_iff {s : List Char} {width : Nat} (hp : '%' ∉ s.take width) (r : List Char) :
    '%' :: r <:+ s.drop width ↔ '%' :: r <:+ s := by
  rw [← suffix_append_iff hp (s.drop width) r, List.take_append_drop]

/-- What is put in the place of a marker, and how much it replaces. -/
def filling (marker? : MarkerReader) (args : List String) (s : List Char) :
    Option (String × Nat) :=
  (marker? s).map fun (n, width) => (args.getD (n - 1) "", width)

theorem fill_percent (marker? : MarkerReader) (args : List String) (s : List Char) :
    fill marker? args ('%' :: s) =
      match filling marker? args s with
      | some (arg, width) => arg.toList ++ fill marker? args (s.drop width)
      | none => '%' :: fill marker? args s := by
  rw [fill, if_pos rfl, filling]
  cases marker? s <;> rfl

theorem fill_of_ne {c : Char} (hc : c ≠ '%') (marker? : MarkerReader) (args : List String)
    (s : List Char) : fill marker? args (c :: s) = c :: fill marker? args s := by
  rw [fill, if_neg hc]

section

variable {m m' : MarkerReader} {args args' : List String}

/-- A text is filled in alike when the same is done behind every percent sign. -/
theorem fill_congr {s : List Char}
    (h : ∀ r, '%' :: r <:+ s → filling m args r = filling m' args' r) :
    fill m args s = fill m' args' s := by
  induction s using fill.induct m with
  | case1 => simp [fill]
  | case2 s n width hm ih =>
    rw [fill_percent, fill_percent, ← h s List.suffix_rfl]
    simp only [filling, hm, Option.map_some]
    rw [ih fun r hr => h r ((hr.trans (List.drop_suffix width s)).trans (List.suffix_cons _ _))]
  | case3 s hm ih =>
    rw [fill_percent, fill_percent, ← h s List.suffix_rfl]
    simp only [filling, hm, Option.map_none]
    rw [ih fun r hr => h r (hr.trans (List.suffix_cons _ _))]
  | case4 c s hc ih =>
    rw [fill_of_ne hc, fill_of_ne hc, ih fun r hr => h r (hr.trans (List.suffix_cons _ _))]

/-- Everything that is put in is one character, and no percent sign. -/
def FillsInOne (marker? : MarkerReader) (args : List String) : Prop :=
  ∀ s arg width, filling marker? args s = some (arg, width) → ∃ c, arg.toList = [c] ∧ c ≠ '%'

/-- Where two readers both find a marker, it has the same width. -/
def SameWidth (m m' : MarkerReader) : Prop :=
  ∀ s n width n' width', m s = some (n, width) → m' s = some (n', width') → width = width'

/-- When a text is filled in alike, with single characters, the same is done behind every percent
sign. -/
theorem filling_of_fill_eq (hp : ∀ s n width, m s = some (n, width) → '%' ∉ s.take width)
    (hw : SameWidth m m') (h1 : FillsInOne m args) (h1' : FillsInOne m' args') {s : List Char}
    (h : fill m args s = fill m' args' s) :
    ∀ r, '%' :: r <:+ s → filling m args r = filling m' args' r := by
  induction s using fill.induct m with
  | case1 => intro r hr; simpa using hr.length_le
  | case2 s n width hs ih =>
    have hf : filling m args s = some (args.getD (n - 1) "", width) := by simp [filling, hs]
    obtain ⟨c, hc, hne⟩ := h1 _ _ _ hf
    rw [fill_percent, fill_percent, hf] at h
    cases hs' : m' s with
    | none =>
      have hf' : filling m' args' s = none := by simp [filling, hs']
      simp only [hf', hc, List.cons_append, List.cons.injEq] at h
      exact absurd h.1 hne
    | some p =>
      obtain ⟨n', width'⟩ := p
      have hwidth := hw _ _ _ _ _ hs hs'
      subst hwidth
      have hf' : filling m' args' s = some (args'.getD (n' - 1) "", width) := by
        simp [filling, hs']
      obtain ⟨c', hc', -⟩ := h1' _ _ _ hf'
      simp only [hf', hc, hc', List.cons_append, List.nil_append, List.cons.injEq] at h
      have harg : args.getD (n - 1) "" = args'.getD (n' - 1) "" :=
        String.toList_inj.1 (by rw [hc, hc', h.1])
      intro r hr
      rcases (suffix_percent_iff s r).1 hr with rfl | hr
      · rw [hf, hf', harg]
      · exact ih h.2 r ((suffix_drop_iff (hp _ _ _ hs) r).2 hr)
  | case3 s hs ih =>
    have hf : filling m args s = none := by simp [filling, hs]
    rw [fill_percent, fill_percent, hf] at h
    cases hf' : filling m' args' s with
    | none =>
      simp only [hf', List.cons.injEq, true_and] at h
      intro r hr
      rcases (suffix_percent_iff s r).1 hr with rfl | hr
      · rw [hf, hf']
      · exact ih h r hr
    | some p =>
      obtain ⟨c', hc', hne⟩ := h1' _ _ _ hf'
      simp only [hf', hc', List.cons_append, List.cons.injEq] at h
      exact absurd h.1.symm hne
  | case4 c s hc ih =>
    rw [fill_of_ne hc, fill_of_ne hc, List.cons.injEq] at h
    exact fun r hr => ih h.2 r ((suffix_cons_iff_of_ne hc s r).1 hr)

end

/-! ## The names of the markers -/

theorem percent_not_mem_of_argument? {s name rest : List Char}
    (h : Text.argument? s = some (name, rest)) : ∃ u, s = u ++ rest ∧ '%' ∉ u := by
  rw [argument?_digits] at h
  split at h
  · simp only [Option.some.injEq, Prod.mk.injEq] at h
    refine ⟨leadingDigits s, ?_, fun hm => ?_⟩
    · have hd : s.take (leadingDigits s).length = leadingDigits s :=
        (List.prefix_iff_eq_take.1 (isPrefix_leadingDigits s)).symm
      have ht := List.take_append_drop (leadingDigits s).length s
      rw [hd, h.2] at ht
      exact ht.symm
    · cases isDigit_of_mem_leadingDigits hm
  · cases h

/-- A marker of the check is the letter of the count or a number, and an `L` may stand in front. -/
theorem markerName?_cases {s name rest : List Char}
    (h : Text.markerName? s = some (name, rest)) :
    ∃ flag t, (flag = [] ∨ flag = ['L']) ∧ s = flag ++ t ∧
      ((name = ['n'] ∧ t = 'n' :: rest) ∨ Text.argument? t = some (name, rest)) := by
  match s with
  | [] => cases h
  | c :: s =>
    by_cases hl : c = 'L'
    · subst hl
      match s with
      | [] => cases h
      | c :: s =>
        refine ⟨['L'], c :: s, .inr rfl, rfl, ?_⟩
        by_cases hn : c = 'n'
        · subst hn
          rw [markerName?_flag_letter, Option.some.injEq, Prod.mk.injEq] at h
          exact .inl ⟨h.1.symm, by rw [h.2]⟩
        · rw [markerName?_flag hn] at h
          exact .inr h
    · refine ⟨[], c :: s, .inl rfl, rfl, ?_⟩
      by_cases hn : c = 'n'
      · subst hn
        rw [markerName?_letter, Option.some.injEq, Prod.mk.injEq] at h
        exact .inl ⟨h.1.symm, by rw [h.2]⟩
      · rw [markerName?_of_ne hl hn] at h
        exact .inr h

/-- A marker of the check has no percent sign in it. -/
theorem percent_not_mem_of_markerName? {s name rest : List Char}
    (h : Text.markerName? s = some (name, rest)) : ∃ u, s = u ++ rest ∧ '%' ∉ u := by
  obtain ⟨flag, t, hflag, rfl, hname⟩ := markerName?_cases h
  have hflag : '%' ∉ flag := by rcases hflag with rfl | rfl <;> decide
  obtain ⟨u, rfl, hu⟩ : ∃ u, t = u ++ rest ∧ '%' ∉ u := by
    rcases hname with ⟨-, rfl⟩ | hname
    · exact ⟨['n'], rfl, by decide⟩
    · exact percent_not_mem_of_argument? hname
  exact ⟨flag ++ u, (List.append_assoc ..).symm, by simp [hflag, hu]⟩

/-- A marker of the check names the count or a number. -/
theorem name_of_markerName? {s name rest : List Char}
    (h : Text.markerName? s = some (name, rest)) :
    name = ['n'] ∨ ∀ c ∈ name, c.isDigit = true := by
  obtain ⟨-, t, -, -, ⟨rfl, -⟩ | hname⟩ := markerName?_cases h
  · exact .inl rfl
  · rw [argument?_digits] at hname
    split at hname
    · rw [Option.some.injEq, Prod.mk.injEq] at hname
      rw [← hname.1]
      exact .inr fun c => isDigit_of_mem_leadingDigits
    · cases hname

/-- The names of the markers of a text are those behind its percent signs. -/
theorem mem_markerNames_iff (s : List Char) (name : String) :
    name ∈ Text.markerNames s ↔
      ∃ r rest, '%' :: r <:+ s ∧ Text.markerName? r = some (name.toList, rest) := by
  induction s using Text.markerNames.induct with
  | case1 => simp [Text.markerNames]
  | case2 s found rest hm ih =>
    have hnames : Text.markerNames ('%' :: s) = String.ofList found :: Text.markerNames rest := by
      rw [Text.markerNames, if_pos rfl]
      split <;> simp_all
    obtain ⟨u, rfl, hu⟩ := percent_not_mem_of_markerName? hm
    rw [hnames, List.mem_cons, ih]
    simp only [suffix_percent_iff, suffix_append_iff hu, or_and_right, exists_or]
    refine or_congr_left ⟨fun h => ?_, fun ⟨r, rest', hr, h⟩ => ?_⟩
    · exact ⟨u ++ rest, rest, rfl, by rw [hm, h, String.toList_ofList]⟩
    · subst hr
      rw [hm, Option.some.injEq, Prod.mk.injEq] at h
      rw [h.1, String.ofList_toList]
  | case3 s hm ih =>
    have hnames : Text.markerNames ('%' :: s) = Text.markerNames s := by
      rw [Text.markerNames, if_pos rfl]
      split <;> simp_all
    rw [hnames, ih]
    simp only [suffix_percent_iff, or_and_right, exists_or]
    refine (or_iff_right fun ⟨r, rest, hr, h⟩ => ?_).symm
    rw [hr, hm] at h
    cases h
  | case4 c s hc ih =>
    rw [Text.markerNames, if_neg hc, ih]
    simp only [suffix_cons_iff_of_ne hc]

theorem mem_insertOrdered (t u : String) (s : List String) :
    t ∈ Text.insertOrdered u s ↔ t = u ∨ t ∈ s := by
  induction s with
  | nil => simp [Text.insertOrdered]
  | cons v s ih =>
    rw [Text.insertOrdered]
    split
    · next he => simp [he]
    · split
      · simp
      · simp [ih, or_left_comm]

theorem mem_foldl_insertOrdered (t : String) (names found : List String) :
    t ∈ names.foldl (fun found name => Text.insertOrdered name found) found ↔
      t ∈ names ∨ t ∈ found := by
  induction names generalizing found with
  | nil => simp
  | cons u names ih =>
    rw [List.foldl_cons, ih, mem_insertOrdered, List.mem_cons]
    exact or_left_comm.trans or_assoc.symm

theorem mem_placeMarkers_iff (template : String) (numerus : Bool) (name : String) :
    name ∈ Text.placeMarkers template numerus ↔
      name ∈ Text.markerNames template.toList ∧ ¬ (numerus = true ∧ name = "n") := by
  rw [Text.placeMarkers, mem_foldl_insertOrdered]
  cases numerus <;> simp

/-! ## Agreement -/

theorem filled?_bounds {s : List Char} {n width : Nat} (h : filled? s = some (n, width)) :
    0 < n ∧ n < 100 := by
  obtain ⟨hn, rfl, -⟩ := filled?_eq_some_iff.1 h
  exact ⟨Nat.pos_of_ne_zero hn, numberOf_leadingDigits_lt s⟩

theorem numbered?_bounds {s : List Char} {n width : Nat} (h : numbered? s = some (n, width)) :
    0 < n ∧ n < 100 := by
  rw [numbered?_eq] at h
  split at h
  · next hs =>
    simp only [Option.some.injEq, Prod.mk.injEq] at h
    rw [← h.1]
    exact ⟨numberOf_leadingDigits_pos hs, numberOf_leadingDigits_lt s⟩
  · cases h

theorem checked?_bounds {s : List Char} {n width : Nat} (h : checked? s = some (n, width)) :
    0 < n ∧ n < 100 := by
  by_cases hl : s.head? = some 'L'
  · obtain ⟨t, rfl⟩ : ∃ t, s = 'L' :: t := List.head?_eq_some_iff.1 hl
    rw [checked?_flag] at h
    obtain ⟨⟨n', width'⟩, hn, he⟩ := Option.map_eq_some_iff.1 h
    cases he
    exact numbered?_bounds hn
  · rw [checked?_of_ne hl] at h
    exact numbered?_bounds h

/-- Single characters for all numbers are what is put in. -/
theorem fillsInOne {m : MarkerReader}
    (hb : ∀ s n width, m s = some (n, width) → 0 < n ∧ n < 100) {args : List String}
    (ha : ∀ i < 99, ∃ c, (args.getD i "").toList = [c] ∧ c ≠ '%') : FillsInOne m args := by
  intro s arg width h
  obtain ⟨⟨n, w⟩, hn, he⟩ := Option.map_eq_some_iff.1 h
  cases he
  obtain ⟨h0, h1⟩ := hb s n _ hn
  exact ha (n - 1) (by omega)

/-- Ninety-nine times the same argument. -/
def sameArgs : List String :=
  List.replicate 99 "x"

theorem length_sameArgs : sameArgs.length = 99 := List.length_replicate

theorem getD_sameArgs {i : Nat} (hi : i < 99) : sameArgs.getD i "" = "x" := by
  rw [List.getD_eq_getElem?_getD, sameArgs, List.getElem?_replicate, if_pos hi, Option.getD_some]

theorem getD_sameArgs_set {i index : Nat} (hi : i < 99) :
    (sameArgs.set index "y").getD i "" = if index = i then "y" else "x" := by
  rw [List.getD_eq_getElem?_getD, List.getElem?_set]
  split
  · next h => rw [if_pos (by rw [length_sameArgs]; omega), Option.getD_some]
  · rw [← List.getD_eq_getElem?_getD, getD_sameArgs hi]

theorem fillsInOne_sameArgs {m : MarkerReader}
    (hb : ∀ s n width, m s = some (n, width) → 0 < n ∧ n < 100) : FillsInOne m sameArgs :=
  fillsInOne hb fun i hi => ⟨'x', by rw [getD_sameArgs hi]; rfl, by decide⟩

/-- Filling in the markers of the check is the same exactly without other markers. -/
theorem fill_eq_iff (s : List Char) :
    (∀ args : List String, 99 ≤ args.length → fill filled? args s = fill checked? args s) ↔
      ¬ HasOtherMarker s := by
  refine ⟨fun h => ?_, fun h args _ => fill_congr fun r hr => ?_⟩
  · rintro ⟨r, hr, ho⟩
    have hw : SameWidth filled? checked? := fun s n width n' width' hf hc => by
      have he := filled?_eq_of_isSome (by rw [hf]; rfl) (by rw [hc]; rfl)
      rw [hf, hc] at he
      cases he
      rfl
    have hlen : 99 ≤ sameArgs.length := Nat.le_of_eq length_sameArgs.symm
    have he := filling_of_fill_eq (fun _ _ _ => percent_not_mem_filled) hw
      (fillsInOne_sameArgs fun _ _ _ => filled?_bounds)
      (fillsInOne_sameArgs fun _ _ _ => checked?_bounds) (h sameArgs hlen) r hr
    exact filled?_ne_checked? ho (by simpa [filling] using congrArg Option.isSome he)
  · rw [filling, filling, filled?_eq_checked? fun ho => h ⟨r, hr, ho⟩]

/-- A text consumes the arguments whose markers are filled in. -/
theorem consumes_iff_filled (template : String) (index : Nat) :
    Consumes template index ↔
      ∃ r width, '%' :: r <:+ template.toList ∧ filled? r = some (index + 1, width) := by
  refine ⟨fun ⟨args, arg, ha, hne⟩ => ?_, fun ⟨r, width, hr, hf⟩ => ?_⟩
  · refine Classical.byContradiction fun hno => hne ?_
    rw [substitute_eq ha, substitute_eq (by rw [List.length_set]; exact ha)]
    refine congrArg String.ofList (fill_congr fun r hr => ?_)
    cases hf : filled? r with
    | none => simp [filling, hf]
    | some p =>
      obtain ⟨n, width⟩ := p
      have hn : index ≠ n - 1 := by
        have h0 := (filled?_bounds hf).1
        rintro rfl
        exact hno ⟨r, width, hr, by rw [hf, Nat.sub_add_cancel h0]⟩
      simp [filling, hf, List.getElem?_set_ne hn]
  · have hi : index < 99 := by
      have := (filled?_bounds hf).2
      omega
    have hlen : 99 ≤ sameArgs.length := Nat.le_of_eq length_sameArgs.symm
    refine ⟨sameArgs, "y", hlen, fun he => ?_⟩
    rw [substitute_eq hlen, substitute_eq (by rw [List.length_set]; exact hlen),
      String.ofList_inj] at he
    have hset : FillsInOne filled? (sameArgs.set index "y") :=
      fillsInOne (fun _ _ _ => filled?_bounds) fun i hlt => by
        rw [getD_sameArgs_set hlt]
        split
        · exact ⟨'y', rfl, by decide⟩
        · exact ⟨'x', rfl, by decide⟩
    have hw : SameWidth filled? filled? := fun s n width n' width' h h' =>
      (Prod.mk.inj (Option.some.inj (h.symm.trans h'))).2
    have hfilling := filling_of_fill_eq (fun _ _ _ => percent_not_mem_filled) hw hset
      (fillsInOne_sameArgs fun _ _ _ => filled?_bounds) he r hr
    rw [filling, filling, hf, Option.map_some, Option.map_some, Option.some.injEq,
      Prod.mk.injEq, Nat.add_sub_cancel, getD_sameArgs_set hi, if_pos rfl,
      getD_sameArgs hi] at hfilling
    exact absurd hfilling.1 (by decide)

/-- Without other markers a text consumes the arguments that its markers name. -/
theorem consumes_iff_name {template : String} (h : ¬ HasOtherMarker template.toList)
    (numerus : Bool) (index : Nat) :
    Consumes template index ↔
      ∃ name ∈ Text.placeMarkers template numerus,
        name ≠ "n" ∧ numberOf name.toList = index + 1 := by
  rw [consumes_iff_filled]
  refine ⟨fun ⟨r, width, hr, hf⟩ => ?_, fun ⟨name, hname, hn, hindex⟩ => ?_⟩
  · rw [filled?_eq_checked? fun ho => h ⟨r, hr, ho⟩, checked?] at hf
    split at hf
    · next name rest hm =>
      split at hf
      · cases hf
      · next hne =>
        simp only [Option.some.injEq, Prod.mk.injEq] at hf
        have hn : String.ofList name ≠ "n" := fun he =>
          hne (by rw [← String.toList_ofList (l := name), he]; rfl)
        refine ⟨String.ofList name, (mem_placeMarkers_iff _ _ _).2 ⟨?_, fun he => hn he.2⟩, hn, ?_⟩
        · exact (mem_markerNames_iff _ _).2 ⟨r, rest, hr, by rw [hm, String.toList_ofList]⟩
        · rw [String.toList_ofList, hf.1]
    · cases hf
  · obtain ⟨r, rest, hr, hm⟩ := (mem_markerNames_iff _ _).1 ((mem_placeMarkers_iff _ _ _).1 hname).1
    have hne : name.toList ≠ ['n'] := fun he => hn (String.toList_inj.1 he)
    refine ⟨r, r.length - rest.length, hr, ?_⟩
    rw [filled?_eq_checked? fun ho => h ⟨r, hr, ho⟩, checked?, hm]
    simp only [if_neg hne, hindex]

/-- With arguments for all numbers, substitution fills in the markers of the check that have no `L`,
and single digits behind a zero. These are the markers of the check exactly when none has an `L` or
a zero in front of its number, and two such texts with the same markers consume the same
arguments. -/
theorem substitute_eq_fill :
    (∀ (template : String) (args : List String), 99 ≤ args.length →
      substitute template args = String.ofList (fill filled? args template.toList)) ∧
    (∀ template : String,
      (∀ args : List String, 99 ≤ args.length →
        substitute template args = String.ofList (fill checked? args template.toList)) ↔
      ¬ HasOtherMarker template.toList) ∧
    (∀ (source translation : String) (numerus : Bool), ¬ HasOtherMarker source.toList →
      ¬ HasOtherMarker translation.toList →
      Text.placeMarkers source numerus = Text.placeMarkers translation numerus →
      ∀ index, Consumes source index ↔ Consumes translation index) := by
  refine ⟨fun template args ha => substitute_eq ha template, fun template => ?_, ?_⟩
  · rw [← fill_eq_iff]
    refine forall_congr' fun args => forall_congr' fun ha => ?_
    rw [substitute_eq ha, String.ofList_inj]
  · intro source translation numerus hs ht he index
    rw [consumes_iff_name hs numerus, consumes_iff_name ht numerus, he]

/-- A translation that swaps the arguments of its source. -/
theorem substitute_eq_fill_swapped :
    (99 ≤ sameArgs.length ∧ substitute "%1 (%2)" sameArgs =
      String.ofList (fill filled? sameArgs "%1 (%2)".toList)) ∧
    ¬ HasOtherMarker "%1 (%2)".toList ∧ ¬ HasOtherMarker "%2: %1".toList ∧
    Text.placeMarkers "%1 (%2)" false = Text.placeMarkers "%2: %1" false ∧
    ∀ index, Consumes "%1 (%2)" index ↔ Consumes "%2: %1" index := by
  have hlen : 99 ≤ sameArgs.length := Nat.le_of_eq length_sameArgs.symm
  have hsource : ¬ HasOtherMarker "%1 (%2)".toList := by
    simp [HasOtherMarker, List.suffix_cons_iff, StartsOther]
  have htranslation : ¬ HasOtherMarker "%2: %1".toList := by
    simp [HasOtherMarker, List.suffix_cons_iff, StartsOther]
  have hplace : Text.placeMarkers "%1 (%2)" false = Text.placeMarkers "%2: %1" false := by
    decide +kernel
  exact ⟨⟨hlen, substitute_eq_fill.1 _ _ hlen⟩, hsource, htranslation, hplace,
    substitute_eq_fill.2.2 _ _ false hsource htranslation hplace⟩

/-- With an `L` or a zero in front of a number the two differ, and a text and its translation with
the same markers may consume different arguments. -/
theorem substitute_ne_fill :
    99 ≤ sameArgs.length ∧
    substitute "%L1" sameArgs ≠ String.ofList (fill checked? sameArgs "%L1".toList) ∧
    substitute "%01" sameArgs ≠ String.ofList (fill checked? sameArgs "%01".toList) ∧
    Text.placeMarkers "%1" false = Text.placeMarkers "%L1" false ∧
    Consumes "%1" 0 ∧ ¬ Consumes "%L1" 0 := by
  refine ⟨by decide, by decide +kernel, by decide +kernel, by decide +kernel, ?_, ?_⟩
  · exact ⟨sameArgs, "y", by decide, by decide +kernel⟩
  · rw [consumes_iff_filled]
    rintro ⟨r, width, hr, hf⟩
    have hr : r = ['L', '1'] := by
      have : '%' :: r <:+ '%' :: ['L', '1'] := hr
      rw [suffix_percent_iff] at this
      simpa [List.suffix_cons_iff] using this
    subst hr
    cases hf

end MessageCatalog.Lookup
