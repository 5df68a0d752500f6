import MessageCatalog.Proofs.Check.Findings
import MessageCatalog.Proofs.Compare.Changes
import MessageCatalog.Proofs.Lookup.Scan

/-!
# The plural forms of a checked catalog

A catalog is checked for the number of the plural forms of a message, and for finished messages that
lack text. The two checks leave messages out: the forms are not counted where there is no text or no
language. Together they leave nothing open for a finished message with a count in a catalog with a
language: where they find nothing, the rule of the language picks one of its forms for every count,
and the form has text. So the form is shown as it is, and never the last form in the place of a
missing one, nor the source.
-/

namespace MessageCatalog.Check

open Language

/-! ## The number of forms -/

/-- The findings about the number of forms. Messages without text and those that are no longer in
use have none. -/
theorem formCounts (c : Catalog) :
    ofKind .numerusFormCount (validate c) = c.entries.flatMap fun e =>
      if e.2.isActive && !e.2.target.isEmpty then checkForms c.languageCode e.1 e.2 else [] := by
  have hforms : ∀ name m, ofKind .numerusFormCount (checkForms c.languageCode name m) =
      checkForms c.languageCode name m :=
    fun _ _ => ofKind_eq_ite fun _ => kind_checkForms
  have hform : ∀ name m form, ofKind .numerusFormCount (checkForm name m form) = [] := by
    intro name m form
    rw [ofKind_eq_nil_iff]
    intro i hi
    rcases kind_checkForm hi with hk | hk | hk <;> rw [hk] <;> decide
  have htexts : ∀ name m, ofKind .numerusFormCount (checkTexts c.languageCode name m) =
      if m.isActive && !m.target.isEmpty then checkForms c.languageCode name m else [] := by
    intro name m
    unfold checkTexts
    split
    · rw [ofKind_append, hforms, ofKind_flatMap]
      simp only [hform, flatMap_nil, List.append_nil]
    · rfl
  rw [ofKind_validate, ← flatMap_entries c fun name m =>
    if m.isActive && !m.target.isEmpty then checkForms c.languageCode name m else []]
  simp [htexts]

/-- No number of forms is wrong when every message with a count and text that is in use has as many
forms as the language, unless there is no language. -/
theorem formCounts_eq_nil_iff {c : Catalog} :
    ofKind .numerusFormCount (validate c) = [] ↔
      ∀ e ∈ c.entries, e.2.isActive = true → e.2.target.isEmpty = false → e.2.numerus = true →
        c.languageCode ≠ "" →
        e.2.target.forms.length = (PluralRule.ofLocale c.languageCode).formCount := by
  rw [formCounts, List.flatMap_eq_nil_iff]
  refine forall₂_congr fun e _ => ?_
  simp only [checkForms, ite_eq_right_iff, Bool.and_eq_true, Bool.not_eq_true', and_imp,
    List.cons_ne_nil, imp_false, not_and, not_not]

end MessageCatalog.Check

namespace MessageCatalog.Lookup

open Check Compare Language

section Checked
variable {c : Catalog} {name : String} {m : Message}

/-! ## What is found -/

/-- A chain finds a message of its first catalog that may be shown, if no other message has its
place. -/
theorem hit?_of_count_eq_one {policy : Policy} (fallbacks : List Catalog)
    (hm : (name, m) ∈ c.entries) (honce : (places c).count (name, m.key) = 1)
    (hu : isUsable policy m = true) :
    hit? policy (c :: fallbacks) name m.source (some m.commentKey) = some (c, m) := by
  have hfirst : (c.entries.find? fun e => Answers policy name m.key e) = some (name, m) := by
    refine find?_of_count_eq_one (f := placeOf) hm honce ?_ fun e he => ?_
    · exact decide_eq_true (answers_iff.2 ⟨hu, rfl, rfl⟩)
    · obtain ⟨-, hname, hkey⟩ := answers_iff.1 (of_decide_eq_true he)
      exact Prod.ext hname hkey
  have hscan : scan? policy (c :: fallbacks) name ⟨m.source, m.commentKey⟩ = some (c, m) := by
    change scan? policy (c :: fallbacks) name m.key = some (c, m)
    rw [scan?_eq_findSome?, List.findSome?_cons]
    simp only [hfirst, Option.map_some]
  rw [hit?, Option.getD_some, hscan, Option.some_or]

/-- The rule of the language picks a form with text for every count, for a finished message with a
count in a catalog in which no number of forms is wrong and no text is missing. -/
theorem exists_form_of_checked (hl : c.languageCode ≠ "")
    (hcounts : ofKind .numerusFormCount (validate c) = [])
    (htexts : ofKind .missingText (validate c) = []) (hm : (name, m) ∈ c.entries)
    (hs : m.status = .finished) (hn : m.numerus = true) (n : Int) :
    ∃ form, m.target.forms[(PluralRule.ofLocale c.languageCode).formIndex n]? = some form ∧
      form ≠ "" := by
  have hcomplete : m.target.isComplete = true := missingTexts_eq_nil_iff.1 htexts _ hm hs
  have hactive : m.isActive = true := by rw [Message.isActive, hs, Status.isActive]
  have hlength : m.target.forms.length = (PluralRule.ofLocale c.languageCode).formCount :=
    formCounts_eq_nil_iff.1 hcounts _ hm hactive
      (Target.isEmpty_eq_false_of_isComplete hcomplete) hn hl
  have hlt : (PluralRule.ofLocale c.languageCode).formIndex n < m.target.forms.length :=
    hlength ▸ PluralRule.formIndex_lt _ n
  refine ⟨_, List.getElem?_eq_getElem hlt, fun he => ?_⟩
  rw [← Bool.not_eq_false, isComplete_eq_false_iff] at hcomplete
  exact hcomplete (.inr (he ▸ List.getElem_mem hlt))

/-! ## What is shown -/

/-- In a catalog with a language, in which no number of forms is wrong and no text is missing, a
finished message with plural forms whose place no other message has is shown with the right form for
every count: the form that the rule of the language picks is there and has text, and it is what is
shown, with the count filled in. -/
theorem textForCount_of_checked (policy : Policy) (fallbacks : List Catalog)
    (hl : c.languageCode ≠ "") (hcounts : ofKind .numerusFormCount (validate c) = [])
    (htexts : ofKind .missingText (validate c) = []) (hm : (name, m) ∈ c.entries)
    (honce : (places c).count (name, m.key) = 1) (hs : m.status = .finished)
    (hn : m.numerus = true) {forms : List String} (hforms : m.target = .plural forms) (n : Int) :
    let index := (PluralRule.ofLocale c.languageCode).formIndex n
    index < forms.length ∧
      ∃ form, forms[index]? = some form ∧ form ≠ "" ∧
        (Chain.ofCatalogs policy (c :: fallbacks)).textForCount name m.source (some m.commentKey)
          n = replaceCount form n := by
  intro index
  obtain ⟨form, hform, hne⟩ := exists_form_of_checked hl hcounts htexts hm hs hn n
  rw [hforms, Target.forms_plural] at hform
  obtain ⟨hlt, -⟩ := List.getElem?_eq_some_iff.1 hform
  refine ⟨hlt, form, hform, hne, ?_⟩
  have hempty : m.target.isEmpty = false :=
    Target.isEmpty_eq_false_of_isComplete (missingTexts_eq_nil_iff.1 htexts _ hm hs)
  have hu : isUsable policy m = true := by rw [isUsable, hs, hempty]; rfl
  have hr : (Chain.ofCatalogs policy (c :: fallbacks)).resolve? name m.source (some m.commentKey) =
      some (.ofLocale c.languageCode, m.target) := by
    rw [Chain.resolve?_ofCatalogs, hit?_of_count_eq_one fallbacks hm honce hu]
    rfl
  -- The form is there, so the last one does not come in.
  have hf : formFor? (.ofLocale c.languageCode) n m.target = some form := by
    rw [hforms, formFor?, Nat.min_eq_left (Nat.le_sub_one_of_lt hlt)]
    exact hform
  rw [Chain.textForCount, Chain.template_of_resolve? hr hempty hf, if_neg hne]

end Checked

/-- A message with the four forms of Slovenian. -/
def slovenianMessage : Message where
  source := "%n file(s)"
  numerus := true
  target := .plural ["%n datoteka", "%n datoteki", "%n datoteke", "%n datotek"]

def slovenianCatalog : Catalog where
  language := some "sl"
  contexts := [
    { name := "Files"
      messages := [slovenianMessage, { source := "Quit", target := .single "Končaj" }] }]

/-- The least count of sixty-four bits ends in 08, so the last form goes with it. -/
theorem textForCount_of_checked_least :
    ofKind .numerusFormCount (validate slovenianCatalog) = [] ∧
      ofKind .missingText (validate slovenianCatalog) = [] ∧
      (Chain.ofCatalogs {} [slovenianCatalog]).textForCount "Files" "%n file(s)" (some "")
        (-9223372036854775808) = "-9223372036854775808 datotek" := by
  have hcounts : ofKind .numerusFormCount (validate slovenianCatalog) = [] :=
    formCounts_eq_nil_iff.2 (by decide +kernel)
  have htexts : ofKind .missingText (validate slovenianCatalog) = [] :=
    missingTexts_eq_nil_iff.2 (by decide)
  have hm : ("Files", slovenianMessage) ∈ slovenianCatalog.entries := List.mem_cons_self
  obtain ⟨-, form, hform, -, hshown⟩ := textForCount_of_checked {} [] (by decide) hcounts htexts hm
    (by decide) rfl rfl rfl (-9223372036854775808)
  have hlast : form = "%n datotek" := Option.some.inj (hform.symm.trans (by decide +kernel))
  refine ⟨hcounts, htexts, hshown.trans ?_⟩
  rw [hlast]
  decide +kernel

end MessageCatalog.Lookup
