import MessageCatalog.Proofs.Lookup.Scan

/-!
# Something is always shown

A chain only finds texts that are not empty (`isEmpty_of_resolve?`), and where the form that goes
with a count is empty the source is shown in its place. To fill in a count takes a marker away only
for the digits of the count, so it leaves something to show of every text (`replaceCount_ne_empty`).
-/

namespace MessageCatalog.Lookup

open MessageCatalog.Language

/-! ## Filling in a count -/

theorem signedDecimal_ne_nil (n : Int) : Text.signedDecimal n ≠ [] := by
  unfold Text.signedDecimal
  split
  · exact List.cons_ne_nil _ _
  · exact Nat.toDigits_ne_nil

/-- A text in which words give way to a text that is not empty does not become empty. -/
theorem replaceAll_ne_nil {first : Char} {others value s : List Char} (hv : value ≠ [])
    (hs : s ≠ []) : replaceAll first others value s ≠ [] := by
  obtain ⟨c, s, rfl⟩ := List.exists_cons_of_ne_nil hs
  rw [replaceAll]
  split
  · exact List.append_ne_nil_of_left_ne_nil hv _
  · exact List.cons_ne_nil _ _

theorem replaceCount_ne_empty {template : String} (h : template ≠ "") (n : Int) :
    replaceCount template n ≠ "" := by
  have hdigits := signedDecimal_ne_nil n
  have hlong : replaceAll '%' ['L', 'n'] (Text.signedDecimal n) template.toList ≠ [] :=
    replaceAll_ne_nil hdigits (by simpa using h)
  have hshort : replaceAll '%' ['n'] (Text.signedDecimal n)
      (replaceAll '%' ['L', 'n'] (Text.signedDecimal n) template.toList) ≠ [] :=
    replaceAll_ne_nil hdigits hlong
  simpa [replaceCount] using hshort

/-! ## What a chain finds -/

section Found
variable {policy : Policy} {catalogs : List Catalog} {context source : String}
  {comment : Option String} {rule : PluralRule} {t : Target}

/-- What a chain finds has text. -/
theorem isEmpty_of_resolve?
    (h : (Chain.ofCatalogs policy catalogs).resolve? context source comment = some (rule, t)) :
    t.isEmpty = false := by
  rw [Chain.resolve?_ofCatalogs] at h
  obtain ⟨⟨c, m⟩, hhit, he⟩ := Option.map_eq_some_iff.1 h
  cases he
  exact isEmpty_of_hit? hhit

/-- The form for a count is among the forms that are found, however many there are. -/
theorem index_lt_of_resolve? {forms : List String}
    (h : (Chain.ofCatalogs policy catalogs).resolve? context source comment =
      some (rule, .plural forms)) (n : Int) :
    min (rule.formIndex n) (forms.length - 1) < forms.length := by
  obtain ⟨form, hform⟩ := exists_formFor? (isEmpty_of_resolve? h) rule n
  exact (List.getElem?_eq_some_iff.1 hform).1

theorem firstText_ne_empty {text : String} (h : t.firstText? = some text) : text ≠ "" := by
  simpa using List.find?_some h

variable (policy catalogs context comment)

theorem text_ne_empty (hs : source ≠ "") :
    (Chain.ofCatalogs policy catalogs).text context source comment ≠ "" := by
  cases hr : (Chain.ofCatalogs policy catalogs).resolve? context source comment with
  | none =>
    rw [Chain.text, hr]
    exact hs
  | some found => exact firstText_ne_empty (Chain.text_of_resolve? hr (isEmpty_of_resolve? hr))

theorem template_ne_empty (hs : source ≠ "") (n : Int) :
    (Chain.ofCatalogs policy catalogs).template context source comment n ≠ "" := by
  cases hr : (Chain.ofCatalogs policy catalogs).resolve? context source comment with
  | none =>
    rw [Chain.template, hr]
    exact hs
  | some found =>
    have htext := isEmpty_of_resolve? hr
    obtain ⟨form, hform⟩ := exists_formFor? htext found.1 n
    rw [Chain.template_of_resolve? hr htext hform]
    split
    · exact hs
    · next hne => exact hne

end Found

/-- For a source that is not empty a chain never shows an empty text, neither without a count nor
with any count, and the form for a count is always taken from among the forms that are found, be
they too few, too many or empty in part. -/
theorem shown_ne_empty (policy : Policy) (catalogs : List Catalog) (context : String)
    {source : String} (hs : source ≠ "") (comment : Option String) (n : Int) :
    let chain := Chain.ofCatalogs policy catalogs
    chain.text context source comment ≠ "" ∧
      chain.textForCount context source comment n ≠ "" ∧
      ∀ rule forms, chain.resolve? context source comment = some (rule, .plural forms) →
        min (rule.formIndex n) (forms.length - 1) < forms.length := by
  intro chain
  refine ⟨text_ne_empty policy catalogs context comment hs, ?_, fun rule forms h => ?_⟩
  · exact replaceCount_ne_empty (template_ne_empty policy catalogs context comment hs n) n
  · exact index_lt_of_resolve? h n

/-- A catalog with too few forms, of which the first is empty, in front of one with no text. -/
def patchyCatalogs : List Catalog :=
  [{ language := some "sl"
     contexts := [{ name := "Files", messages := [
      { source := "%n file(s)", comment := some "menu", numerus := true
        target := .plural ["", "%n datoteki"] }] }] },
   { language := some "de"
     contexts := [{ name := "Files", messages := [
      { source := "%n file(s)", numerus := true, target := .plural ["", ""] }] }] }]

/-- The rule picks the empty form for the count, so the source is shown. -/
theorem shown_ne_empty_patchy :
    "%n file(s)" ≠ "" ∧
      let chain := Chain.ofCatalogs {} patchyCatalogs
      chain.text "Files" "%n file(s)" (some "menu") ≠ "" ∧
        chain.textForCount "Files" "%n file(s)" (some "menu") (-101) ≠ "" ∧
        ∀ rule forms,
          chain.resolve? "Files" "%n file(s)" (some "menu") = some (rule, .plural forms) →
            min (rule.formIndex (-101)) (forms.length - 1) < forms.length :=
  ⟨by decide, shown_ne_empty {} patchyCatalogs "Files" (by decide) (some "menu") (-101)⟩

end MessageCatalog.Lookup
