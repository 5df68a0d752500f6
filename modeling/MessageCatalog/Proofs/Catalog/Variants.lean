import MessageCatalog.Proofs.Catalog.Spellings

/-!
# Variants and forms

A target lists plural forms, and a target or a form lists variants, of which the first is kept
(`Shows` and `HoldsTarget`). What is collected for a target is gone when it closes, whatever the
document (`Assembly.IsSwept`). So a target sets the status and the target of its message and does
nothing else (`Catalog.first_variant_kept`).
-/

namespace MessageCatalog

open Markup

/-! ## Targets as they are written -/

/-- The characters spell the text. -/
def IsText (s : List Char) (text : String) : Prop :=
  ∃ spellings : List Spelling, s = spellings.flatMap Spelling.written ∧
    text = String.ofList (spellings.flatMap Spelling.text)

theorem isText_plain (text : String) (h : '<' ∉ text.toList ∧ '&' ∉ text.toList) :
    IsText text.toList text :=
  ⟨[.plain text.toList h], (List.flatMap_singleton Spelling.written (.plain text.toList h)).symm,
    by rw [List.flatMap_singleton, Spelling.text, String.ofList_toList]⟩

/-- Elements of one name stand in the characters, each of which gives a text. Other texts may stand
around them. -/
inductive IsListing (name : String) (gives : List Char → String → Prop) :
    List Char → List String → Prop
  | nil {gap : List Char} {ignored : String} (hgap : IsText gap ignored) :
    IsListing name gives gap []
  | cons {gap inside element rest : List Char} {ignored text : String} {texts : List String}
    {tag : Tag} (hgap : IsText gap ignored) (hname : String.ofList tag.name = name)
    (helement : Encloses tag inside element) (htext : gives inside text)
    (hrest : IsListing name gives rest texts) :
    IsListing name gives (gap ++ element ++ rest) (text :: texts)

/-- The characters spell a text, or list variants of which it is the first. -/
inductive Shows : List Char → String → Prop
  | plain {s : List Char} {text : String} (h : IsText s text) : Shows s text
  | variants {s : List Char} {first : String} {others : List String}
    (h : IsListing "lengthvariant" IsText s (first :: others)) : Shows s first

/-- What stands in the element of a target. A message with a count has forms as its target, and any
other message has forms if some are listed. -/
inductive HoldsTarget (numerus : Bool) (s : List Char) : Target → Prop
  | plural {forms : List String} (h : IsListing "numerusform" Shows s forms)
    (hne : forms ≠ [] ∨ numerus = true) : HoldsTarget numerus s (.plural forms)
  | single {text : String} (h : Shows s text) (hn : numerus = false) :
    HoldsTarget numerus s (.single text)

namespace Assembly
variable {a b c d : Assembly} {field : Field} {s inside : List Char} {text : String} {tag : Tag}

/-! ## Nothing is left over -/

/-- What is collected for a target is gone behind it, and the text of a field behind the field. -/
structure IsSwept (a : Assembly) : Prop extends IsTidy a where
  text : a.field = none → a.text = ""
  forms : ¬InTarget a.field → a.forms = []
  awaited : a.field ≠ some .variant → a.variantOf = none

theorem isSwept_empty : IsSwept {} where
  toIsTidy := isTidy_empty
  text _ := rfl
  forms _ := rfl
  awaited _ := rfl

theorem ne_variant_of_not_inTarget (h : ¬InTarget a.field) : a.field ≠ some .variant :=
  fun hv => h (.inr (.inr hv))

namespace IsSwept

theorem opens (h : a.IsSwept) (ho : a.Opens b) : b.IsSwept := by
  have ht := h.toIsTidy.opens ho
  cases ho with
  | deeper | skip | root | context | location | message => exact ⟨ht, h.text, h.forms, h.awaited⟩
  | byte c hf =>
    refine ⟨ht, fun hn => ?_, h.forms, h.awaited⟩
    rw [show a.field = none from hn] at hf
    cases hf
  | target status hm hf =>
    refine ⟨ht, nofun, fun hn => absurd (.inl rfl) hn, fun _ => h.awaited ?_⟩
    rw [hf]
    nofun
  | text ha hf =>
    have hn := h.toIsTidy.not_inTarget ha
    exact ⟨ht, nofun, fun _ => h.forms hn, fun _ => h.awaited (ne_variant_of_not_inTarget hn)⟩
  | form hf =>
    refine ⟨ht, nofun, fun hn => absurd (.inr (.inl rfl)) hn, fun _ => h.awaited ?_⟩
    rw [hf]
    decide
  | variant ha hf =>
    exact ⟨ht, nofun, fun hn => absurd (.inr (.inr rfl)) hn, fun hv => absurd rfl hv⟩

theorem closeField (h : a.IsSwept) (hf : a.field = some field) : (a.closeField field).IsSwept := by
  have ht := h.toIsTidy.closeField hf
  cases field with
  | variant =>
    have hv := h.variantOf hf
    refine ⟨ht, fun _ => rfl, fun hn => ?_, fun _ => rfl⟩
    change ¬InTarget a.variantOf at hn
    rcases hv with hv | hv
    · exact absurd (.inl hv) hn
    · exact absurd (.inr (.inl hv)) hn
  | form =>
    refine ⟨ht, fun _ => rfl, fun hn => absurd (.inl rfl) hn, fun _ => h.awaited ?_⟩
    rw [hf]
    decide
  | target =>
    obtain ⟨m, hm⟩ := Option.isSome_iff_exists.1 (h.message (.inl hf))
    have ha : a.variantOf = none := h.awaited (by rw [hf]; decide)
    unfold Assembly.closeField at ht ⊢
    simp only [setInMessage, hm] at ht ⊢
    exact ⟨ht, fun _ => rfl, fun _ => rfl, fun _ => ha⟩
  | contextName | contextComment =>
    have hn : ¬InTarget a.field := by simp [InTarget, hf]
    have ha := h.awaited (ne_variant_of_not_inTarget hn)
    unfold Assembly.closeField at ht ⊢
    simp only [setInContext] at ht ⊢
    split at ht <;> exact ⟨ht, fun _ => rfl, fun _ => h.forms hn, fun _ => ha⟩
  | _ =>
    have hn : ¬InTarget a.field := by simp [InTarget, hf]
    have ha := h.awaited (ne_variant_of_not_inTarget hn)
    unfold Assembly.closeField at ht ⊢
    simp only [setInMessage] at ht ⊢
    split at ht <;> exact ⟨ht, fun _ => rfl, fun _ => h.forms hn, fun _ => ha⟩

theorem closeTag (h : a.IsSwept) (name : List Char) : (a.closeTag name).IsSwept := by
  have ht := h.toIsTidy.closeTag name
  rcases closeTag_cases a name with ⟨field, hf, hc⟩ | ⟨hf, htext, hforms, -, hv, -⟩
  · rw [hc]
    exact h.closeField hf
  · exact ⟨ht, by rw [hf, htext]; exact h.text, by rw [hf, hforms]; exact h.forms,
      by rw [hf, hv]; exact h.awaited⟩

theorem addText (h : a.IsSwept) (s : List Char) : (a.addText s).IsSwept := by
  have ht := h.toIsTidy.addText s
  by_cases hf : (a.field.isSome && a.skipDepth == 0) = true
  · rw [Assembly.addText, if_pos hf] at ht ⊢
    refine ⟨ht, fun hn => ?_, h.forms, h.awaited⟩
    rw [show a.field = none from hn] at hf
    cases hf
  · rwa [Assembly.addText, if_neg hf]

end IsSwept

theorem kept_isSwept : Kept IsSwept where
  opens := IsSwept.opens
  closeTag := IsSwept.closeTag
  addText := IsSwept.addText

/-! ## Fields with variants -/

/-- A target or a form of the open message is open, and no variant is. -/
structure Collects (a : Assembly) (field : Field) : Prop extends IsFree a where
  field_eq : a.field = some field
  target_or_form : field = .target ∨ field = .form
  message : a.message.isSome = true
  awaited : a.variantOf = none

namespace Collects

theorem of_eq (h : a.Collects field) (text : String) (forms : List String)
    (firstVariant : Option String) : { a with text, forms, firstVariant }.Collects field :=
  ⟨⟨⟨h.root, h.notClosed, h.notSkipping⟩, h.noByte⟩, h.field_eq, h.target_or_form, h.message,
    h.awaited⟩

theorem reads_text (h : a.Collects field) {text : String} (ht : IsText s text) :
    Reads s a { a with text := a.text ++ text } := by
  obtain ⟨spellings, rfl, rfl⟩ := ht
  exact reads_spellings (by rw [h.field_eq]; rfl) h.notSkipping h.noByte spellings

/-- An element that is no character opens inside the target or form. -/
theorem openTag_eq (h : a.Collects field) {name : String} (hname : String.ofList tag.name = name)
    (hn : name ≠ "byte") : a.openTag tag = .ok (a.openInField field name) := by
  obtain ⟨m, hm⟩ := Option.isSome_iff_exists.1 h.message
  rw [openTag_of_isOpen h.toIsOpen fun hbyte => hn (hname.symm.trans hbyte.1), hm, h.field_eq,
    hname]

/-- A variant is read, and the first one is kept. -/
theorem reads_variant (h : a.Collects field) (hname : String.ofList tag.name = "lengthvariant")
    (helement : Encloses tag inside s) {text : String} (ht : IsText inside text) :
    Reads s a { a with text := "", firstVariant := a.firstVariant.or (some text) } := by
  have hopen : a.openTag tag =
      .ok { a with variantOf := some field, field := some .variant, text := "" } := by
    have hform : ¬(field = .target ∧ "lengthvariant" = "numerusform") := by simp
    rw [h.openTag_eq hname (by decide), openInField, if_neg hform, if_pos ⟨h.target_or_form, rfl⟩]
    rfl
  have hinside : Reads inside { a with variantOf := some field, field := some .variant, text := "" }
      { a with variantOf := some field, field := some .variant, text } := by
    obtain ⟨spellings, rfl, rfl⟩ := ht
    have hr := reads_spellings
      (a := { a with variantOf := some field, field := some .variant, text := "" })
      rfl h.notSkipping h.noByte spellings
    rwa [String.empty_append] at hr
  refine Reads.encloses helement hopen hinside ((closeTag_of_field
    (a := { a with variantOf := some field, field := some .variant, text })
    rfl h.notSkipping h.noByte tag.name).trans ?_)
  simp only [closeField, ← h.field_eq, ← h.awaited]

/-- Variants are read, and the first one is kept. -/
theorem reads_variants (h : a.Collects field) {variants : List String}
    (hs : IsListing "lengthvariant" IsText s variants) : ∃ text,
      Reads s a { a with text, firstVariant := a.firstVariant.or variants.head? } := by
  induction hs generalizing a with
  | nil hgap =>
    rw [List.head?_nil, Option.or_none]
    exact ⟨_, h.reads_text hgap⟩
  | @cons _ _ _ _ ignored variant variants _ hgap hname helement htext _ ih =>
    have h₁ := h.reads_text hgap
    have h₂ := (h.of_eq (a.text ++ ignored) a.forms a.firstVariant).reads_variant hname helement
      htext
    obtain ⟨text, h₃⟩ := ih (h.of_eq "" a.forms (a.firstVariant.or (some variant)))
    refine ⟨text, ?_⟩
    rw [Option.or_assoc, Option.some_or] at h₃
    exact (h₁.append h₂).append h₃

/-- What shows a text is read as the text or as variants of which it is the first. -/
theorem reads_shown (h : a.Collects field) (ht : a.text = "") (hv : a.firstVariant = none)
    {shown : String} (hs : Shows s shown) : ∃ text firstVariant,
      Reads s a { a with text, firstVariant } ∧ firstVariant.getD text = shown := by
  cases hs with
  | plain hs =>
    have hr := h.reads_text hs
    rw [ht, String.empty_append] at hr
    exact ⟨shown, a.firstVariant, hr, by rw [hv]; rfl⟩
  | variants hs =>
    obtain ⟨text, hr⟩ := h.reads_variants hs
    exact ⟨text, _, hr, by rw [hv]; rfl⟩

/-! ## Targets -/

/-- A form is read, and what it shows is collected. -/
theorem reads_form (h : a.Collects .target) (hv : a.firstVariant = none)
    (hname : String.ofList tag.name = "numerusform") (helement : Encloses tag inside s)
    {form : String} (hform : Shows inside form) :
    Reads s a { a with text := "", forms := form :: a.forms } := by
  have hopen : a.openTag tag = .ok { a with field := some .form, text := "" } :=
    h.openTag_eq hname (by decide)
  have hbegun : Collects { a with field := some .form, text := "" } .form :=
    ⟨⟨⟨h.root, h.notClosed, h.notSkipping⟩, h.noByte⟩, rfl, .inr rfl, h.message, h.awaited⟩
  obtain ⟨text, firstVariant, hinside, rfl⟩ := hbegun.reads_shown rfl hv hform
  refine Reads.encloses helement hopen hinside ((closeTag_of_field
    (a := { a with field := some .form, text, firstVariant })
    rfl h.notSkipping h.noByte tag.name).trans ?_)
  simp only [closeField, ← h.field_eq, ← hv]

/-- Forms are read, and what they show is collected in order. -/
theorem reads_forms (h : a.Collects .target) (hv : a.firstVariant = none) {forms : List String}
    (hs : IsListing "numerusform" Shows s forms) : ∃ text,
      Reads s a { a with text, forms := forms.reverse ++ a.forms } := by
  induction hs generalizing a with
  | nil hgap => exact ⟨_, h.reads_text hgap⟩
  | @cons _ _ _ _ ignored form forms _ hgap hname helement hform _ ih =>
    have h₁ := h.reads_text hgap
    have h₂ := (h.of_eq (a.text ++ ignored) a.forms a.firstVariant).reads_form hv hname helement
      hform
    obtain ⟨text, h₃⟩ := ih (h.of_eq "" (form :: a.forms) a.firstVariant) hv
    refine ⟨text, ?_⟩
    rw [List.reverse_cons, List.append_assoc forms.reverse]
    exact (h₁.append h₂).append h₃

end Collects

/-- A target of the message opens. -/
def beginTarget (a : Assembly) (m : Message) (status : Status) : Assembly :=
  { a with message := some { m with status }, sawTarget := true, forms := [] }.beginField .target

/-- The open message has the status and the target. -/
def withTarget (a : Assembly) (m : Message) (status : Status) (target : Target) : Assembly :=
  { a with message := some { m with status, target }, sawTarget := true }

section Targets
variable {m : Message} {status : Status}

/-- The start tag of a target opens it, if its mark is known. -/
theorem openTag_translation (ha : a.IsFree) (hm : a.message = some m) (hf : a.field = none)
    (hname : String.ofList tag.name = "translation") {attributes : List Attribute}
    (hattributes : attributesOf tag = .ok attributes)
    (hstatus : Status.ofMark? (attribute? attributes "type") = some status) :
    a.openTag tag = .ok (a.beginTarget m status) := by
  rw [openTag_of_isOpen ha.toIsOpen (by simp [hf]), hm, hf, hname]
  simp only [openInMessage, if_neg (show "translation" ≠ "location" by decide), if_pos,
    hattributes, bind, Except.bind, hstatus]
  rfl

theorem collects_beginTarget (m : Message) (status : Status) (ha : a.IsFree)
    (hv : a.variantOf = none) : (a.beginTarget m status).Collects .target :=
  ⟨⟨⟨ha.root, ha.notClosed, ha.notSkipping⟩, ha.noByte⟩, rfl, .inl rfl, rfl, hv⟩

/-- Where a target closes, nothing of what has been collected for it is left. -/
theorem closeTag_translation (m : Message) (status : Status) (ha : a.IsFree) (hs : a.IsSwept)
    (hf : a.field = none) (name : List Char) (text : String) (forms : List String)
    (firstVariant : Option String) :
    { a.beginTarget m status with text, forms, firstVariant }.closeTag name =
      a.withTarget m status ({ m with status }.targeted (firstVariant.getD text) forms).target := by
  refine (closeTag_of_field (a := { a.beginTarget m status with text, forms, firstVariant })
    rfl ha.notSkipping ha.noByte name).trans ?_
  have htext := hs.text hf
  have hforms := hs.forms (by rw [hf]; exact not_inTarget_none)
  have hv := hs.firstVariant (by rw [hf]; exact not_inTarget_none)
  simp only [closeField, setInMessage, beginTarget, beginField, withTarget, Message.targeted,
    ← htext, ← hforms, ← hv, ← hf]

/-- A target sets the status and the target of the open message and does nothing else. -/
theorem reads_target {attributes : List Attribute} {t : Target}
    (ha : a.IsFree) (hswept : a.IsSwept) (hm : a.message = some m) (hf : a.field = none)
    (hname : String.ofList tag.name = "translation")
    (hattributes : attributesOf tag = .ok attributes)
    (hstatus : Status.ofMark? (attribute? attributes "type") = some status)
    (helement : Encloses tag inside s) (ht : HoldsTarget m.numerus inside t) :
    Reads s a (a.withTarget m status t) := by
  have hopen := openTag_translation ha hm hf hname hattributes hstatus
  have hb := collects_beginTarget m status ha (hswept.awaited (by rw [hf]; nofun))
  have hv := hswept.firstVariant (by rw [hf]; exact not_inTarget_none)
  cases ht with
  | @plural forms hforms hne =>
    obtain ⟨text, hinside⟩ := hb.reads_forms hv hforms
    have hclose := closeTag_translation m status ha hswept hf tag.name text
      (forms.reverse ++ []) a.firstVariant
    refine Reads.encloses helement hopen hinside (hclose.trans ?_)
    have hshape : (m.numerus || !forms.reverse.isEmpty) = true := by
      simpa [or_comm] using hne
    simp only [Message.targeted, List.append_nil, if_pos hshape, List.reverse_reverse]
  | single hshown hn =>
    obtain ⟨text, firstVariant, hinside, rfl⟩ := hb.reads_shown rfl hv hshown
    have hclose := closeTag_translation m status ha hswept hf tag.name text [] firstVariant
    refine Reads.encloses helement hopen hinside (hclose.trans ?_)
    simp [Message.targeted, hn]

end Targets

end Assembly

/-! ## Documents -/

namespace Catalog
open Assembly

/-- Behind whatever document, outside of targets no variant and no form is left over. A target that
lists forms holds what each of them shows, which is its text or its first variant, and a target
without forms holds what it shows itself. It sets the status and the target of its message and does
nothing else, and a document is read the same whatever the variants are that are not kept. -/
theorem first_variant_kept :
    (∀ {pieces : List Piece} {r : Reading}, Reading.run {} pieces = .ok r →
      ¬InTarget r.assembly.field → r.assembly.firstVariant = none ∧ r.assembly.forms = []) ∧
    ∀ {before : List Char} {place : Nat} {nesting : Nesting} {a : Assembly} {m : Message}
      {tag : Tag} {attributes : List Attribute} {status : Status} {inside element : List Char}
      {t : Target},
      Reading.runAll {} (cut (dropByteOrderMark before)) = .ok ⟨place, nesting, a⟩ →
      a.IsFree → a.message = some m → a.field = none →
      String.ofList tag.name = "translation" → attributesOf tag = .ok attributes →
      Status.ofMark? (attribute? attributes "type") = some status →
      Encloses tag inside element → HoldsTarget m.numerus inside t →
      (∃ place', Reading.runAll {} (cut (dropByteOrderMark (before ++ element))) =
        .ok ⟨place', nesting, a.withTarget m status t⟩) ∧
      ∀ {inside' element' : List Char}, Encloses tag inside' element' →
        HoldsTarget m.numerus inside' t → ∀ (behind : List Char) (c : Catalog),
          parseChars (before ++ element' ++ behind) = .ok c ↔
            parseChars (before ++ element ++ behind) = .ok c := by
  refine ⟨fun hrun hn => ?_, ?_⟩
  · have h := kept_isSwept.run hrun isSwept_empty
    exact ⟨h.firstVariant hn, h.forms hn⟩
  intro before place nesting a m tag attributes status inside element t hbefore hfree hm hf hname
    hattributes hstatus helement ht
  have hne := ne_nil_of_runAll hbefore hfree.toIsOpen
  have hswept : a.IsSwept := kept_isSwept.run (Reading.runAll_eq_ok_iff.1 hbefore).2 isSwept_empty
  have hread {inside element : List Char} (helement : Encloses tag inside element)
      (ht : HoldsTarget m.numerus inside t) :=
    (reads_target hfree hswept hm hf hname hattributes hstatus helement ht).runAll_append hne
      hbefore
  refine ⟨hread helement ht, fun helement' ht' behind c => ?_⟩
  obtain ⟨place₁, h₁⟩ := hread helement' ht'
  obtain ⟨place₂, h₂⟩ := hread helement ht
  have hne' (element : List Char) : before ++ element ≠ [] :=
    List.append_ne_nil_of_left_ne_nil hne element
  exact ⟨parseChars_congr (hne' _) (hne' _) h₁ h₂ ⟨rfl, rfl⟩,
    parseChars_congr (hne' _) (hne' _) h₂ h₁ ⟨rfl, rfl⟩⟩

/-- Forms with a text, with variants of which the first is empty, and with nothing. -/
def mixedForms : List Char :=
  " <numerusform>a</numerusform>b<numerusform>c<lengthvariant></lengthvariant>".toList ++
    "d<lengthvariant>e</lengthvariant>f</numerusform><numerusform/>g".toList

theorem holdsTarget_mixedForms : HoldsTarget true mixedForms (.plural ["a", "", ""]) := by
  have hvariant : IsTag "lengthvariant" [] := isTag_plain (by decide)
  have hform : IsTag "numerusform" [] := isTag_plain (by decide)
  have hvariants := IsListing.cons (isText_plain "c" (by decide)) hvariant.name_eq
    (hvariant.encloses "".toList) (isText_plain "" (by decide))
    (.cons (isText_plain "d" (by decide)) hvariant.name_eq (hvariant.encloses "e".toList)
      (isText_plain "e" (by decide)) (.nil (isText_plain "f" (by decide))))
  have hempty : Encloses ⟨"numerusform".toList⟩ [] "<numerusform/>".toList :=
    .selfClosing (p := .tag "numerusform/".toList) ⟨rfl, rfl⟩
  have hforms := IsListing.cons (isText_plain " " (by decide)) hform.name_eq
    (hform.encloses "a".toList) (Shows.plain (isText_plain "a" (by decide)))
    (.cons (isText_plain "b" (by decide)) hform.name_eq (hform.encloses _) (.variants hvariants)
      (.cons (isText_plain "" (by decide)) rfl hempty (.plain (isText_plain "" (by decide)))
        (.nil (isText_plain "g" (by decide)))))
  exact HoldsTarget.plural hforms (.inr rfl)

/-- The same forms with their texts alone. -/
def plainForms : List Char :=
  "<numerusform>a</numerusform><numerusform></numerusform><numerusform></numerusform>".toList

theorem holdsTarget_plainForms : HoldsTarget true plainForms (.plural ["a", "", ""]) := by
  have hempty : IsText [] "" := isText_plain "" (by decide)
  have hform : IsTag "numerusform" [] := isTag_plain (by decide)
  have hforms := IsListing.cons hempty hform.name_eq (hform.encloses "a".toList)
    (Shows.plain (isText_plain "a" (by decide)))
    (.cons hempty hform.name_eq (hform.encloses []) (.plain hempty)
      (.cons hempty hform.name_eq (hform.encloses []) (.plain hempty) (.nil hempty)))
  exact HoldsTarget.plural hforms (.inr rfl)

theorem first_variant_kept_mixed :
    parseChars ("<TS><context><message numerus='yes'>".toList ++
      ("<translation type=\x22unfinished\x22>".toList ++ mixedForms ++ "</translation>".toList) ++
      "</message></context></TS>".toList) =
      .ok { contexts := [{ messages := [{
        numerus := true, target := .plural ["a", "", ""], status := .unfinished }] }] } := by
  have hbefore : Reading.runAll {}
      (cut (dropByteOrderMark "<TS><context><message numerus='yes'>".toList)) =
      .ok ⟨36, ["message".toList, "context".toList, "TS".toList],
        { catalog := some {}, context := some {}, message := some { numerus := true } }⟩ := rfl
  have htarget := isTag_target .unfinished
  have hkept := first_variant_kept.2 hbefore ⟨⟨rfl, rfl, rfl⟩, rfl⟩ rfl rfl htarget.name_eq
    htarget.attributes_eq rfl (htarget.encloses mixedForms) holdsTarget_mixedForms
  refine (hkept.2 (htarget.encloses plainForms) holdsTarget_plainForms
    "</message></context></TS>".toList _).1 ?_
  decide +kernel

/-- A message without a count that lists no forms has an empty text as its target. -/
theorem no_form_listed :
    IsListing "numerusform" Shows [] [] ∧
      Encloses ⟨"translation".toList⟩ [] "<translation></translation>".toList ∧
      parseChars ("<TS><context><message>".toList ++ "<translation></translation>".toList ++
        "</message></context></TS>".toList) =
          .ok { contexts := [{ messages := [{ target := .single "" }] }] } := by
  have htag : IsTag "translation" [] := isTag_plain (by decide)
  exact ⟨.nil (isText_plain "" (by decide)), htag.encloses [], by decide +kernel⟩

end Catalog

end MessageCatalog
