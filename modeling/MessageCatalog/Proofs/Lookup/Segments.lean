import MessageCatalog.Proofs.Lookup.Markers
import MessageCatalog.Proofs.Numeral

/-!
# The segments of a text that is filled in

A text is cut into literal pieces and markers in one way, which depends on the number of arguments
alone (`isSegmented_iff`). Substitution copies the literal pieces and puts the arguments in the
places of the markers, so no argument is ever read as part of the text (`substitute_segments`).
-/

namespace MessageCatalog.Lookup

/-! ## Cutting a text -/

/-- A part of a text that is filled in. -/
inductive Segment where
  | literal (text : List Char)
  /-- The digits behind a percent sign, and the number that they stand for. -/
  | marker (digits : List Char) (number : Nat)
  deriving DecidableEq, Repr

/-- The digits behind a percent sign are a marker for one of the arguments: they are as many as
there are, at most two, and stand for the number of an argument. -/
structure IsMarker (argCount : Nat) (digits : List Char) (number : Nat) (rest : List Char) :
    Prop where
  isDigit : ∀ c ∈ digits, c.isDigit = true
  atMostTwo : digits.length ≤ 2
  asMany : digits.length < 2 → ∀ c ∈ rest.head?, c.isDigit = false
  value : Text.StandsFor 10 digits number
  bounds : 1 ≤ number ∧ number ≤ argCount

/-- A marker stands at the start of what is behind a percent sign. -/
def StartsWithMarker (argCount : Nat) (s : List Char) : Prop :=
  ∃ digits number rest, s = digits ++ rest ∧ IsMarker argCount digits number rest

/-- A text is cut into markers and literal pieces. No percent sign in a literal piece has a marker
behind it, and no literal piece is empty or stands behind another one. -/
inductive IsSegmented (argCount : Nat) : List Char → List Segment → Prop
  | nil : IsSegmented argCount [] []
  | literal {text rest : List Char} {segments : List Segment} (hne : text ≠ [])
    (hno : ∀ before behind, text = before ++ '%' :: behind →
      ¬StartsWithMarker argCount (behind ++ rest))
    (hend : ∀ next, .literal next ∉ segments.head?) (h : IsSegmented argCount rest segments) :
    IsSegmented argCount (text ++ rest) (.literal text :: segments)
  | marker {digits rest : List Char} {number : Nat} {segments : List Segment}
    (hm : IsMarker argCount digits number rest) (h : IsSegmented argCount rest segments) :
    IsSegmented argCount ('%' :: (digits ++ rest)) (.marker digits number :: segments)

/-- What is put in the place of a segment. -/
def Segment.filled (args : List String) : Segment → List Char
  | .literal text => text
  | .marker _ number => (args.getD (number - 1) "").toList

/-- A character in front of some segments. -/
def consLiteral (c : Char) : List Segment → List Segment
  | .literal text :: segments => .literal (c :: text) :: segments
  | segments => .literal [c] :: segments

/-- The segments of a text. -/
def segments (argCount : Nat) (s : List Char) : List Segment :=
  match s with
  | [] => []
  | c :: s =>
    if c = '%' ∧ 1 ≤ numberOf (leadingDigits s) ∧ numberOf (leadingDigits s) ≤ argCount then
      .marker (leadingDigits s) (numberOf (leadingDigits s)) ::
        segments argCount (s.drop (leadingDigits s).length)
    else consLiteral c (segments argCount s)
  termination_by s.length
  decreasing_by all_goals simp only [List.length_drop, List.length_cons]; omega

/-! ## Digits -/

theorem digitValue?_of_isDigit {c : Char} (h : c.isDigit = true) :
    Text.digitValue? 10 c = some (c.toNat - 48) := by
  have hb := bounds_of_isDigit h
  simp only [Text.digitValue?, hb, and_self, if_true]
  exact Option.filter_some_pos (decide_eq_true (by omega))

/-- One or two digits stand for the number that they are read as. -/
theorem standsFor_leadingDigits {s : List Char} (h : leadingDigits s ≠ []) :
    Text.StandsFor 10 (leadingDigits s) (numberOf (leadingDigits s)) := by
  rcases leadingDigits_cases s with hd | ⟨c, hc, hd⟩ | ⟨c, d, hc, hd', hd⟩
  · exact absurd hd h
  · rw [hd, numberOf_one]
    exact ⟨by simp, [_], .cons (digitValue?_of_isDigit hc) .nil, by simp⟩
  · rw [hd, numberOf_two]
    refine ⟨by simp, [_, _], .cons (digitValue?_of_isDigit hc)
      (.cons (digitValue?_of_isDigit hd') .nil), ?_⟩
    simp [Nat.ofDigits_cons]
    omega

/-- A marker is told by the digits at the start. -/
theorem isMarker_iff {argCount number : Nat} {digits rest : List Char} :
    IsMarker argCount digits number rest ↔
      leadingDigits (digits ++ rest) = digits ∧ numberOf digits = number ∧ 1 ≤ number ∧
        number ≤ argCount := by
  constructor
  · intro h
    have hlead : leadingDigits (digits ++ rest) = digits := by
      match digits, h with
      | [], h => exact absurd rfl h.value.1
      | [c], h =>
        have hc := h.isDigit c List.mem_cons_self
        cases rest with
        | nil => exact leadingDigits_one hc
        | cons d rest =>
          have hd : d.isDigit = false := h.asMany (by simp) d (by simp)
          rw [List.singleton_append, leadingDigits_cons hc, hd]
          rfl
      | [c, d], h =>
        have hc := h.isDigit c List.mem_cons_self
        have hd := h.isDigit d (by simp)
        show leadingDigits (c :: d :: rest) = _
        rw [leadingDigits_cons hc, if_pos hd]
      | _ :: _ :: _ :: _, h => exact absurd h.atMostTwo (by simp)
    have hvalue := standsFor_leadingDigits (s := digits ++ rest) (by rw [hlead]; exact h.value.1)
    rw [hlead] at hvalue
    exact ⟨hlead, Text.StandsFor.unique hvalue h.value, h.bounds⟩
  · rintro ⟨hlead, rfl, hbounds⟩
    have hne : digits ≠ [] := by
      rintro rfl
      exact absurd hbounds.1 (by decide)
    have hvalue := standsFor_leadingDigits (s := digits ++ rest) (by rwa [hlead])
    rw [hlead] at hvalue
    refine ⟨fun c hc => ?_, ?_, fun hlen c hc => ?_, hvalue, hbounds⟩
    · rw [← hlead] at hc
      exact isDigit_of_mem_leadingDigits hc
    · have hcases := leadingDigits_cases (digits ++ rest)
      rw [hlead] at hcases
      rcases hcases with rfl | ⟨_, _, rfl⟩ | ⟨_, _, _, _, rfl⟩ <;> simp
    · -- Behind a single digit another one would be taken as well.
      obtain ⟨rest, rfl⟩ := List.head?_eq_some_iff.1 hc
      obtain ⟨d, rfl⟩ : ∃ d, digits = [d] := by
        rw [← List.length_eq_one_iff]
        have hpos := List.length_pos_iff.2 hne
        omega
      have hd : d.isDigit = true := by
        refine isDigit_of_mem_leadingDigits (s := d :: c :: rest) ?_
        rw [show leadingDigits (d :: c :: rest) = [d] from hlead]
        exact List.mem_singleton_self d
      rw [List.singleton_append, leadingDigits_cons hd] at hlead
      cases hcd : c.isDigit with
      | false => rfl
      | true => simp [hcd] at hlead

/-- A marker stands behind a percent sign exactly when the digits there name an argument. -/
theorem startsWithMarker_iff {argCount : Nat} {s : List Char} :
    StartsWithMarker argCount s ↔
      1 ≤ numberOf (leadingDigits s) ∧ numberOf (leadingDigits s) ≤ argCount := by
  constructor
  · rintro ⟨digits, number, rest, rfl, h⟩
    obtain ⟨hlead, rfl, hbounds⟩ := isMarker_iff.1 h
    rwa [hlead]
  · intro h
    obtain ⟨rest, hrest⟩ := isPrefix_leadingDigits s
    exact ⟨leadingDigits s, _, rest, hrest.symm, isMarker_iff.2 ⟨by rw [hrest], rfl, h⟩⟩

/-! ## The one way to cut a text -/

theorem segments_nil (argCount : Nat) : segments argCount [] = [] := by
  rw [segments]

/-- A marker is cut off with its percent sign. -/
theorem segments_marker {argCount number : Nat} {digits rest : List Char}
    (h : IsMarker argCount digits number rest) :
    segments argCount ('%' :: (digits ++ rest)) =
      .marker digits number :: segments argCount rest := by
  obtain ⟨hlead, rfl, hbounds⟩ := isMarker_iff.1 h
  rw [segments, hlead, if_pos ⟨rfl, hbounds⟩, List.drop_left]

/-- A character that no marker stands at is literal. -/
theorem segments_literal {argCount : Nat} {c : Char} {s : List Char}
    (h : c = '%' → ¬StartsWithMarker argCount s) :
    segments argCount (c :: s) = consLiteral c (segments argCount s) := by
  rw [segments, if_neg fun hc => h hc.1 (startsWithMarker_iff.2 hc.2)]

/-- A character that no marker stands at goes in front of the literal piece behind it. -/
theorem IsSegmented.cons {argCount : Nat} {c : Char} {s : List Char} {cut : List Segment}
    (h : IsSegmented argCount s cut) (hc : c = '%' → ¬StartsWithMarker argCount s) :
    IsSegmented argCount (c :: s) (consLiteral c cut) := by
  have hone : ∀ before behind, [c] = before ++ '%' :: behind →
      ¬StartsWithMarker argCount (behind ++ s) := by
    intro before behind he
    obtain ⟨rfl, hb⟩ | ⟨_, -, hb⟩ := List.cons_eq_append_iff.1 he
    · obtain ⟨rfl, rfl⟩ := List.cons_eq_cons.1 hb
      exact hc rfl
    · simp at hb
  cases h with
  | nil => exact .literal (List.cons_ne_nil c []) hone (by simp) .nil
  | marker hm h => exact .literal (List.cons_ne_nil c []) hone (by simp) (.marker hm h)
  | @literal text rest _ hne hno hend h =>
    show IsSegmented argCount ((c :: text) ++ rest) (.literal (c :: text) :: _)
    refine .literal (List.cons_ne_nil c text) ?_ hend h
    intro before behind he
    obtain ⟨rfl, hb⟩ | ⟨before, rfl, hb⟩ := List.cons_eq_append_iff.1 he
    · obtain ⟨rfl, rfl⟩ := List.cons_eq_cons.1 hb
      exact hc rfl
    · exact hno before behind hb

/-- Every text is cut into its segments. -/
theorem isSegmented_segments (argCount : Nat) (s : List Char) :
    IsSegmented argCount s (segments argCount s) := by
  induction s using segments.induct argCount with
  | case1 =>
    rw [segments_nil]
    exact .nil
  | case2 c s h ih =>
    obtain ⟨rfl, h⟩ := h
    obtain ⟨digits, number, rest, rfl, hm⟩ := startsWithMarker_iff.2 h
    obtain ⟨hlead, -, -⟩ := isMarker_iff.1 hm
    rw [hlead, List.drop_left] at ih
    rw [segments_marker hm]
    exact .marker hm ih
  | case3 c s h ih =>
    have hc : c = '%' → ¬StartsWithMarker argCount s := fun hc hm =>
      h ⟨hc, startsWithMarker_iff.1 hm⟩
    rw [segments_literal hc]
    exact ih.cons hc

/-- A literal piece is cut off as a whole. -/
theorem segments_append {argCount : Nat} {rest : List Char} {text : List Char} (hne : text ≠ [])
    (hno : ∀ before behind, text = before ++ '%' :: behind →
      ¬StartsWithMarker argCount (behind ++ rest))
    (hend : ∀ next, .literal next ∉ (segments argCount rest).head?) :
    segments argCount (text ++ rest) = .literal text :: segments argCount rest := by
  induction text with
  | nil => exact absurd rfl hne
  | cons c text ih =>
    have hc : c = '%' → ¬StartsWithMarker argCount (text ++ rest) := by
      rintro rfl
      exact hno [] text rfl
    rw [List.cons_append, segments_literal hc]
    cases text with
    | nil =>
      rw [List.nil_append]
      match hs : segments argCount rest with
      | [] => rfl
      | .marker _ _ :: _ => rfl
      | .literal next :: _ => exact absurd (by rw [hs]; rfl) (hend next)
    | cons d text =>
      have hno' : ∀ before behind, d :: text = before ++ '%' :: behind →
          ¬StartsWithMarker argCount (behind ++ rest) := fun before behind he =>
        hno (c :: before) behind (by rw [he, List.cons_append])
      rw [ih (List.cons_ne_nil d text) hno']
      rfl

/-- A text is cut in one way. -/
theorem isSegmented_iff {argCount : Nat} {s : List Char} {cut : List Segment} :
    IsSegmented argCount s cut ↔ cut = segments argCount s := by
  refine ⟨fun h => ?_, fun h => h ▸ isSegmented_segments argCount s⟩
  induction h with
  | nil => exact (segments_nil argCount).symm
  | literal hne hno hend _ ih =>
    subst ih
    exact (segments_append hne hno hend).symm
  | marker hm _ ih => rw [segments_marker hm, ih]

/-! ## Filling in -/

theorem flatMap_consLiteral (args : List String) (c : Char) (cut : List Segment) :
    (consLiteral c cut).flatMap (Segment.filled args) = c :: cut.flatMap (Segment.filled args) := by
  match cut with
  | [] => rfl
  | .literal _ :: _ => rfl
  | .marker _ _ :: _ => rfl

/-- What is put in the place of a marker is the argument with its number. -/
theorem argument?_append {args : List String} {number : Nat} {digits rest : List Char}
    (h : IsMarker args.length digits number rest) :
    argument? args (digits ++ rest) = some (args.getD (number - 1) "") := by
  obtain ⟨hlead, hnumber, hbounds⟩ := isMarker_iff.1 h
  rw [argument?, hlead, hnumber]
  obtain ⟨i, rfl⟩ : ∃ i, number = i + 1 := ⟨number - 1, by omega⟩
  have hi : i < args.length := by omega
  simp [hi]

/-- Nothing is put in where no marker is. -/
theorem argument?_eq_none {args : List String} {s : List Char}
    (h : ¬StartsWithMarker args.length s) : argument? args s = none := by
  rw [startsWithMarker_iff] at h
  unfold argument?
  split
  · rfl
  · next n hn =>
    rw [hn] at h
    exact List.getElem?_eq_none (by omega)

/-- The segments of a text are filled in one after the other. -/
theorem substituteFrom_eq_flatMap (args : List String) (done : String) (s : List Char) :
    substituteFrom args done s =
      done ++ String.ofList ((segments args.length s).flatMap (Segment.filled args)) := by
  induction s using segments.induct args.length generalizing done with
  | case1 => simp [substituteFrom, segments_nil]
  | case2 c s h ih =>
    obtain ⟨rfl, h⟩ := h
    obtain ⟨digits, number, rest, rfl, hm⟩ := startsWithMarker_iff.2 h
    obtain ⟨hlead, -, -⟩ := isMarker_iff.1 hm
    rw [hlead, List.drop_left] at ih
    rw [substituteFrom, if_pos rfl, argument?_append hm, hlead, List.drop_left, segments_marker hm,
      List.flatMap_cons]
    simp only [ih, String.append_assoc, Segment.filled, String.ofList_append, String.ofList_toList]
  | case3 c s h ih =>
    have hc : c = '%' → ¬StartsWithMarker args.length s := fun hc hm =>
      h ⟨hc, startsWithMarker_iff.1 hm⟩
    have hstep : substituteFrom args done (c :: s) = substituteFrom args (done.push c) s := by
      rw [substituteFrom]
      split
      · next hp => rw [argument?_eq_none (hc hp)]
      · rfl
    rw [hstep, ih, segments_literal hc, flatMap_consLiteral, ← String.append_singleton,
      String.append_assoc]
    simp

/-- A text is filled in by filling in its segments. -/
theorem substitute_eq_flatMap (template : String) (args : List String) :
    substitute template args = String.ofList
      ((segments args.length template.toList).flatMap (Segment.filled args)) := by
  rw [substitute, substituteFrom_eq_flatMap, String.empty_append]

/-- Without arguments there is no marker. -/
theorem segments_zero (s : List Char) : (segments 0 s).flatMap (Segment.filled []) = s := by
  induction s with
  | nil => rw [segments_nil, List.flatMap_nil]
  | cons c s ih =>
    have hc : c = '%' → ¬StartsWithMarker 0 s := fun _ hm => by
      have := startsWithMarker_iff.1 hm
      omega
    rw [segments_literal hc, flatMap_consLiteral, ih]

/-! ## Parts of a text -/

/-- The digits at the start end in front of a percent sign. -/
theorem leadingDigits_append_percent (s t : List Char) :
    leadingDigits (s ++ '%' :: t) = leadingDigits s := by
  match s with
  | [] => exact leadingDigits_of_not_isDigit rfl t
  | [c] =>
    cases hc : c.isDigit with
    | false => simp only [List.singleton_append, leadingDigits_of_not_isDigit hc]
    | true =>
      rw [List.singleton_append, leadingDigits_cons hc, leadingDigits_one hc]
      rfl
  | _ :: _ :: _ => rfl

/-- What is in front of a percent sign is filled in without regard to what is behind. -/
theorem flatMap_segments_append (args : List String) (before behind : List Char) :
    (segments args.length (before ++ '%' :: behind)).flatMap (Segment.filled args) =
      (segments args.length before).flatMap (Segment.filled args) ++
        (segments args.length ('%' :: behind)).flatMap (Segment.filled args) := by
  induction before using segments.induct args.length with
  | case1 => simp [segments_nil]
  | case2 c s h ih =>
    obtain ⟨rfl, h⟩ := h
    obtain ⟨digits, number, rest, rfl, hm⟩ := startsWithMarker_iff.2 h
    have hm' : IsMarker args.length digits number (rest ++ '%' :: behind) := by
      rw [isMarker_iff, ← List.append_assoc, leadingDigits_append_percent]
      exact isMarker_iff.1 hm
    rw [(isMarker_iff.1 hm).1, List.drop_left] at ih
    rw [List.cons_append, List.append_assoc, segments_marker hm, segments_marker hm',
      List.flatMap_cons, List.flatMap_cons, ih, List.append_assoc]
  | case3 c s h ih =>
    have hc : c = '%' → ¬StartsWithMarker args.length s := fun hc hm =>
      h ⟨hc, startsWithMarker_iff.1 hm⟩
    have hc' : c = '%' → ¬StartsWithMarker args.length (s ++ '%' :: behind) := by
      rwa [startsWithMarker_iff, leadingDigits_append_percent, ← startsWithMarker_iff]
    rw [List.cons_append, segments_literal hc, segments_literal hc', flatMap_consLiteral,
      flatMap_consLiteral, ih, List.cons_append]

/-- Two digits that no argument has are left where they are, with their percent sign. -/
theorem flatMap_segments_two {args : List String} {c d : Char} (hc : c.isDigit = true)
    (hd : d.isDigit = true)
    (h : ¬(1 ≤ numberOf [c, d] ∧ numberOf [c, d] ≤ args.length)) (behind : List Char) :
    (segments args.length ('%' :: c :: d :: behind)).flatMap (Segment.filled args) =
      '%' :: c :: d :: (segments args.length behind).flatMap (Segment.filled args) := by
  have hno : ¬StartsWithMarker args.length (c :: d :: behind) := by
    rwa [startsWithMarker_iff, leadingDigits_cons hc, if_pos hd]
  have hliteral : ∀ {e : Char} {s : List Char}, e.isDigit = true →
      e = '%' → ¬StartsWithMarker args.length s := by
    rintro _ _ he rfl
    cases he
  rw [segments_literal fun _ => hno, segments_literal (hliteral hc),
    segments_literal (hliteral hd)]
  simp only [flatMap_consLiteral]

/-- A text is cut into literal pieces and markers in one way, which depends on the number of
arguments alone. Whatever the arguments are, the literal pieces are copied and the arguments put in
the places of their markers. Without arguments the text is left alone, and so are two digits that
no argument has. -/
theorem substitute_segments :
    (∀ (template : String) (argCount : Nat), ∃ cut : List Segment,
      (∀ other, IsSegmented argCount template.toList other ↔ other = cut) ∧
      ∀ args : List String, args.length = argCount →
        substitute template args = String.ofList (cut.flatMap (Segment.filled args))) ∧
    (∀ template : String, substitute template [] = template) ∧
    ∀ (args : List String) (before behind : String) (c d : Char), c.isDigit = true →
      d.isDigit = true → ¬(1 ≤ numberOf [c, d] ∧ numberOf [c, d] ≤ args.length) →
      substitute (before ++ String.ofList ['%', c, d] ++ behind) args =
        substitute before args ++ String.ofList ['%', c, d] ++ substitute behind args := by
  refine ⟨fun template argCount => ?_, fun template => ?_,
    fun args before behind c d hc hd h => ?_⟩
  · refine ⟨segments argCount template.toList, fun _ => isSegmented_iff, ?_⟩
    rintro args rfl
    exact substitute_eq_flatMap template args
  · rw [substitute_eq_flatMap, List.length_nil, segments_zero, String.ofList_toList]
  · have htext : (before ++ String.ofList ['%', c, d] ++ behind).toList =
        before.toList ++ '%' :: c :: d :: behind.toList := by
      simp
    rw [substitute_eq_flatMap, htext, flatMap_segments_append, flatMap_segments_two hc hd h,
      substitute_eq_flatMap before, substitute_eq_flatMap behind, ← String.ofList_append,
      ← String.ofList_append, List.append_assoc]
    rfl

/-- An argument that looks like a marker, digits behind a marker and a number that no argument
has. -/
theorem substitute_segments_mixed :
    (IsSegmented 2 "%2%%10 é%100".toList
      [.marker ['2'] 2, .literal ['%', '%', '1', '0', ' ', 'é', '%', '1', '0', '0']] ∧
    ["%2", "x"].length = 2 ∧ substitute "%2%%10 é%100" ["%2", "x"] = "x%%10 é%100") ∧
    (Char.isDigit '1' = true ∧ Char.isDigit '0' = true ∧
      ¬(1 ≤ numberOf ['1', '0'] ∧ numberOf ['1', '0'] ≤ ["%2", "x"].length)) ∧
    substitute ("é%1" ++ "%10" ++ "0%2") ["%2", "x"] = "é%2%100x" := by
  have hcut : IsSegmented 2 "%2%%10 é%100".toList
      [.marker ['2'] 2, .literal ['%', '%', '1', '0', ' ', 'é', '%', '1', '0', '0']] :=
    isSegmented_iff.2 (by decide +kernel)
  have hbounds : ¬(1 ≤ numberOf ['1', '0'] ∧ numberOf ['1', '0'] ≤ ["%2", "x"].length) := by decide
  refine ⟨⟨hcut, rfl, ?_⟩, ⟨rfl, rfl, hbounds⟩, ?_⟩
  · obtain ⟨cut, hunique, hfilled⟩ := substitute_segments.1 "%2%%10 é%100" 2
    rw [hfilled _ rfl, ← (hunique _).1 hcut]
    decide +kernel
  · refine (substitute_segments.2.2 ["%2", "x"] "é%1" "0%2" '1' '0' rfl rfl hbounds).trans ?_
    decide +kernel

end MessageCatalog.Lookup
