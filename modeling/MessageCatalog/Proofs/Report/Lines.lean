import Mathlib.Data.List.Basic
import Mathlib.Data.String.Basic
import MessageCatalog.Proofs.Total
import MessageCatalog.Report.Phrase

/-!
# The lines of a report as text

The text of a report is cut at its line breaks into what its lines show, so a line of the report
takes one line of the text and one more for every line break that is shown in it
(`linesOf_renderLines`). Colours show no line breaks, nor do quoted texts and numbers.
-/

namespace MessageCatalog.Report

/-! ## Line breaks -/

/-- How many line breaks a text has. -/
def breaks (s : String) : Nat :=
  s.toList.count '\n'

@[simp] theorem breaks_append (s t : String) : breaks (s ++ t) = breaks s + breaks t := by
  rw [breaks, String.toList_append, List.count_append, breaks, breaks]

theorem breaks_eq_zero_iff {s : String} : breaks s = 0 ↔ '\n' ∉ s.toList :=
  List.count_eq_zero

@[simp] theorem breaks_of_notMem {s : String} (h : '\n' ∉ s.toList) : breaks s = 0 :=
  breaks_eq_zero_iff.2 h

/-- The lines of a text. -/
def linesOf (s : String) : List String :=
  (s.toList.splitOn '\n').map String.ofList

theorem linesOf_eq_singleton {s : String} (h : breaks s = 0) : linesOf s = [s] := by
  rw [linesOf, List.splitOn_eq_singleton (breaks_eq_zero_iff.1 h), List.map_singleton,
    String.ofList_toList]

/-- A line break ends a line. -/
theorem linesOf_append (s t : String) : linesOf (s ++ "\n" ++ t) = linesOf s ++ linesOf t := by
  have htext : (s ++ "\n" ++ t).toList = s.toList ++ '\n' :: t.toList := by simp
  rw [linesOf, htext, List.splitOn_append_cons_self, List.map_append, linesOf, linesOf]

/-- A text has one more line than it has line breaks. -/
theorem length_linesOf (s : String) : (linesOf s).length = breaks s + 1 := by
  rw [linesOf, List.length_map, breaks]
  induction s.toList with
  | nil => rfl
  | cons c s ih =>
    rw [List.splitOn_cons_eq_if_modifyHead]
    by_cases hc : c = '\n' <;> simp [hc, ih]

/-! ## Pieces -/

theorem extract_sublist (s : String) (b e : String.Pos.Raw) :
    (String.Pos.Raw.extract s b e).toList.Sublist s.toList := by
  have hend : ∀ (chars : List Char) (i : String.Pos.Raw),
      (String.Pos.Raw.extract.go₂ chars i e).Sublist chars := by
    intro chars
    induction chars with
    | nil => exact fun i => .refl _
    | cons c chars ih =>
      intro i
      rw [String.Pos.Raw.extract.go₂]
      split
      · exact List.nil_sublist _
      · exact (ih _).cons_cons c
  have hstart : ∀ (chars : List Char) (i : String.Pos.Raw),
      (String.Pos.Raw.extract.go₁ chars i b e).Sublist chars := by
    intro chars
    induction chars with
    | nil => exact fun i => .refl _
    | cons c chars ih =>
      intro i
      rw [String.Pos.Raw.extract.go₁]
      split
      · exact hend _ _
      · exact (ih _).cons c
  rw [String.Pos.Raw.extract]
  split
  · exact List.nil_sublist _
  · rw [String.toList_ofList]
    exact hstart _ _

/-- The parts of a text that is split are taken from it. -/
theorem sublist_of_mem_splitOnAux {s sep : String} (b i j : String.Pos.Raw) (parts : List String)
    (hparts : ∀ part ∈ parts, part.toList.Sublist s.toList) :
    ∀ part ∈ String.splitOnAux s sep b i j parts, part.toList.Sublist s.toList := by
  have hadd : ∀ (b e : String.Pos.Raw) (parts : List String),
      (∀ part ∈ parts, part.toList.Sublist s.toList) →
        ∀ part ∈ String.Pos.Raw.extract s b e :: parts, part.toList.Sublist s.toList :=
    fun b e _ hparts => List.forall_mem_cons.2 ⟨extract_sublist s b e, hparts⟩
  induction b, i, j, parts using String.splitOnAux.induct s sep with
  | case1 b i j parts hend =>
    rw [String.splitOnAux, if_pos hend]
    intro part h
    exact hadd b i parts hparts part (List.mem_reverse.1 h)
  | case2 b i j parts hend hc i' j' hsep ih =>
    rw [String.splitOnAux, if_neg hend, if_pos hc]
    intro part h
    rw [if_pos hsep] at h
    exact ih (hadd _ _ parts hparts) part h
  | case3 b i j parts hend hc i' j' hsep ih =>
    rw [String.splitOnAux, if_neg hend, if_pos hc]
    intro part h
    rw [if_neg hsep] at h
    exact ih hparts part h
  | case4 b i j parts hend hc ih =>
    rw [String.splitOnAux, if_neg hend, if_neg hc]
    exact ih hparts

theorem sublist_of_mem_splitOn {s sep part : String} (h : part ∈ s.splitOn sep) :
    part.toList.Sublist s.toList := by
  rw [String.splitOn] at h
  split at h
  · rw [List.mem_singleton.1 h]
  · exact sublist_of_mem_splitOnAux 0 0 0 [] (by simp) part h

/-- Texts put together with line-free text between them have the line breaks that they have. -/
theorem breaks_intercalate {sep : String} (hsep : breaks sep = 0) {parts : List String}
    (hparts : ∀ part ∈ parts, breaks part = 0) : breaks (sep.intercalate parts) = 0 := by
  induction parts with
  | nil => rfl
  | cons part parts ih =>
    obtain ⟨hpart, hparts⟩ := List.forall_mem_cons.1 hparts
    cases parts with
    | nil => rwa [String.intercalate_singleton]
    | cons next parts =>
      rw [String.intercalate_cons_cons, breaks_append, breaks_append, hpart, hsep, ih hparts]

variable {color : Bool}

@[simp] theorem breaks_plain (text : String) : breaks ((plain text).render color) = breaks text :=
  rfl

/-- A style shows no line breaks of its own. -/
@[simp] theorem breaks_styled {style : Style} {text : String} (h : breaks text = 0) :
    breaks ((styled style text).render color) = 0 := by
  have hreset : breaks reset = 0 := rfl
  have hstyle : ∀ code, breaks code = 0 → breaks (control code) = 0 := by
    intro code hcode
    rw [control, breaks_append, breaks_append, hcode]
    rfl
  have hstart : breaks (control style.code) = 0 := by
    refine hstyle _ ?_
    cases style <;> rfl
  have hparts : ∀ part ∈ text.splitOn reset, breaks part = 0 := by
    intro part hpart
    rw [breaks_eq_zero_iff] at h ⊢
    exact fun hc => h ((sublist_of_mem_splitOn hpart).mem hc)
  cases color with
  | false => exact h
  | true =>
    show breaks (control style.code ++
      (reset ++ control style.code).intercalate (text.splitOn reset) ++ reset) = 0
    have hsep : breaks (reset ++ control style.code) = 0 := by
      rw [breaks_append, hreset, hstart]
    rw [breaks_append, breaks_append, hstart, hreset, breaks_intercalate hsep hparts]

/-! ## Lines -/

@[simp] theorem breaks_render (l : Line) :
    breaks (l.render color) = total (l.map fun p => breaks (p.render color)) := by
  rw [Line.render]
  induction l with
  | nil => rfl
  | cons p l ih =>
    rw [List.map_cons, String.join_cons, breaks_append, ih, List.map_cons, total_cons]

/-- How many line breaks are shown in some lines. -/
def breaksIn (color : Bool) (lines : List Line) : Nat :=
  total (lines.map fun l => breaks (l.render color))

@[simp] theorem breaksIn_nil : breaksIn color [] = 0 := rfl

@[simp] theorem breaksIn_cons (l : Line) (lines : List Line) :
    breaksIn color (l :: lines) = breaks (l.render color) + breaksIn color lines := rfl

@[simp] theorem breaksIn_append (s t : List Line) :
    breaksIn color (s ++ t) = breaksIn color s + breaksIn color t := by
  rw [breaksIn, List.map_append, total_append, breaksIn, breaksIn]

theorem breaksIn_map {α : Type} {line : α → Line} {extra : α → Nat} {s : List α}
    (h : ∀ a ∈ s, breaks ((line a).render color) = extra a) :
    breaksIn color (s.map line) = total (s.map extra) := by
  rw [breaksIn, List.map_map]
  exact congrArg total (List.map_congr_left h)

/-- The text of a report consists of what its lines show. -/
theorem linesOf_renderLines {lines : List Line} (hne : lines ≠ []) :
    linesOf (renderLines color lines) = lines.flatMap fun l => linesOf (l.render color) := by
  rw [renderLines]
  induction lines with
  | nil => exact absurd rfl hne
  | cons l lines ih =>
    cases lines with
    | nil => simp
    | cons next lines =>
      rw [List.map_cons, List.map_cons, String.intercalate_cons_cons, linesOf_append,
        ← List.map_cons, ih (List.cons_ne_nil _ _)]
      rfl

/-- A line of a report takes one line of the text, and one more for each line break in it. -/
theorem length_linesOf_renderLines {lines : List Line} (hne : lines ≠ []) :
    (linesOf (renderLines color lines)).length = lines.length + breaksIn color lines := by
  rw [linesOf_renderLines hne, length_flatMap]
  simp only [length_linesOf]
  rw [total_map_add, total_eq_length fun _ _ => rfl, Nat.add_comm, breaksIn]

/-- Every line of a report takes one line of its text. -/
def OneLineEach (color : Bool) (lines : List Line) : Prop :=
  linesOf (renderLines color lines) = lines.map (·.render color)

/-- Lines take one line each when no line breaks are shown in them. -/
theorem oneLineEach_iff {lines : List Line} (hne : lines ≠ []) :
    OneLineEach color lines ↔ breaksIn color lines = 0 := by
  constructor
  · intro h
    have hlength := congrArg List.length h
    rw [length_linesOf_renderLines hne, List.length_map] at hlength
    omega
  · intro h
    have hbreaks : ∀ l ∈ lines, breaks (l.render color) = 0 :=
      List.forall_mem_map.1 (total_eq_zero_iff.1 h)
    rw [OneLineEach, linesOf_renderLines hne, List.map_eq_flatMap]
    exact List.flatMap_congr fun l hl => linesOf_eq_singleton (hbreaks l hl)

/-- The text of a report has a count of lines and some extra ones, and its lines are those of the
report only where there are no extra ones. -/
structure TakesLines (color : Bool) (lines : List Line) (count : Nat) (extras : List Nat) :
    Prop where
  length : (linesOf (renderLines color lines)).length = count + total extras
  oneLineEach : OneLineEach color lines ↔ ∀ extra ∈ extras, extra = 0

section TakesLines
variable {lines : List Line} {count : Nat} {extras : List Nat}

theorem takesLines_of_breaksIn (hlength : lines.length = count) (hpos : 0 < count)
    (hbreaks : breaksIn color lines = total extras) : TakesLines color lines count extras := by
  have hne : lines ≠ [] := List.ne_nil_of_length_pos (by omega)
  refine ⟨?_, ?_⟩
  · rw [length_linesOf_renderLines hne, hlength, hbreaks]
  · rw [oneLineEach_iff hne, hbreaks, total_eq_zero_iff]

/-- Without extra lines there are as many lines as were counted, and each is one of the report. -/
theorem TakesLines.of_extras_eq_zero (h : TakesLines color lines count extras)
    (hzero : ∀ extra ∈ extras, extra = 0) :
    OneLineEach color lines ∧ (linesOf (renderLines color lines)).length = count := by
  have htotal : total extras = 0 := total_eq_zero_iff.2 hzero
  refine ⟨h.oneLineEach.2 hzero, ?_⟩
  rw [h.length, htotal, Nat.add_zero]

end TakesLines

/-! ## Phrases -/

@[simp] theorem breaks_quote (s : String) : breaks (quote s) = 0 := by
  have hescaped : breaks (String.ofList (s.toList.flatMap fun c =>
      if c = '\n' then ['\\', 'n'] else [c])) = 0 := by
    rw [breaks_eq_zero_iff, String.toList_ofList, List.mem_flatMap]
    rintro ⟨c, -, hc⟩
    split at hc
    · exact absurd hc (by decide)
    · next hne => exact hne (List.mem_singleton.1 hc).symm
  rw [quote, breaks_append, breaks_append, hescaped]
  rfl

@[simp] theorem breaks_number (n : Nat) : breaks (number n) = 0 := by
  rw [breaks_eq_zero_iff, number, String.toList_ofList]
  intro h
  cases Nat.isDigit_of_mem_toDigits (by decide) (by decide) h

@[simp] theorem breaks_repr (n : Nat) : breaks n.repr = 0 :=
  breaks_number n

@[simp] theorem breaks_severityLabel (severity : Check.Severity) :
    breaks ((severityLabel severity).render color) = 0 := by
  refine breaks_styled ?_
  cases severity <;> rfl

end MessageCatalog.Report
