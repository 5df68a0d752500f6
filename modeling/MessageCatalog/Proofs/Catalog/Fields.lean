import MessageCatalog.Proofs.Catalog.Shaping
import MessageCatalog.Proofs.Catalog.Skipping

/-!
# Elements that hold a text

Ten kinds of elements hold a text where they belong: two in a context, seven in a message, and the
forms in a target (`Assembly.HoldsText`). Whichever it is, its start tag opens a field with no text
in it (`HoldsText.isBegun`), and when the field closes, what it has collected is stored
(`IsBegun.stores_closeField`).

One thing comes in between: the first variant of a target takes the place of its text, and if a form
follows the variant, of the text of that form.
-/

namespace MessageCatalog

open Markup

/-- The field is one of a context, and all others are those of a message. -/
def Field.isOfContext : Field → Bool
  | .contextName | .contextComment => true
  | _ => false

/-- The names of the elements that are not skipped in a field, but for `byte`. -/
def Field.knownInside (field : Field) : List String :=
  if field.isOfContext then ["name", "comment", "message"] else Assembly.knownInMessage (some field)

namespace Assembly
variable {a b : Assembly} {field : Field}

/-! ## Where a text belongs -/

/-- The root is open, nothing is being skipped and no `byte` element is open. -/
structure IsFree (a : Assembly) : Prop extends IsOpen a where
  noByte : a.inByte = false

/-- An element with the name belongs where the assembly stands, and it holds the text of the
field. -/
inductive HoldsText (a : Assembly) : String → Field → Prop
  | contextName (hc : a.context.isSome = true) (hm : a.message = none) (hf : a.field = none) :
    HoldsText a "name" .contextName
  | contextComment (hc : a.context.isSome = true) (hm : a.message = none) (hf : a.field = none) :
    HoldsText a "comment" .contextComment
  | ofMessage {name : String} {field : Field} (hm : a.message.isSome = true) (hf : a.field = none)
    (h : Field.ofMessageElement? name = some field) : HoldsText a name field
  | target (hm : a.message.isSome = true) (hf : a.field = none) :
    HoldsText a "translation" .target
  | form (hm : a.message.isSome = true) (hf : a.field = some .target) :
    HoldsText a "numerusform" .form

/-- The text is stored as that of the field. A message with a count has no text as its target. -/
def Stores (a : Assembly) (text : String) : Field → Prop
  | .contextName => ∃ c, a.context = some c ∧ c.name = text
  | .contextComment => ∃ c, a.context = some c ∧ c.comment = some text
  | .source => ∃ m, a.message = some m ∧ m.source = text
  | .oldSource => ∃ m, a.message = some m ∧ m.oldSource = some text
  | .comment => ∃ m, a.message = some m ∧ m.comment = some text
  | .oldComment => ∃ m, a.message = some m ∧ m.oldComment = some text
  | .extraComment => ∃ m, a.message = some m ∧ m.extraComment = some text
  | .translatorComment => ∃ m, a.message = some m ∧ m.translatorComment = some text
  | .target => ∃ m, a.message = some m ∧
      m.target = if m.numerus then .plural [] else .single text
  | .form => a.forms.head? = some text
  | .variant => a.firstVariant = some text

/-- What an element that holds a text stores of it. A form behind a variant of its target takes the
variant. -/
def storedText (a : Assembly) (field : Field) (text : String) : String :=
  match field with
  | .form => a.firstVariant.getD text
  | _ => text

/-! ## Variants that are left over -/

/-- What closes is the open field, or else nothing of it changes. -/
theorem closeTag_cases (a : Assembly) (name : List Char) :
    (∃ field, a.field = some field ∧ a.closeTag name = a.closeField field) ∨
      ((a.closeTag name).field = a.field ∧ (a.closeTag name).text = a.text ∧
        (a.closeTag name).forms = a.forms ∧ (a.closeTag name).firstVariant = a.firstVariant ∧
        (a.closeTag name).variantOf = a.variantOf ∧
        (a.field.isSome = true → (a.closeTag name).message = a.message)) := by
  unfold closeTag
  dsimp only
  split
  · exact .inr ⟨rfl, rfl, rfl, rfl, rfl, fun _ => rfl⟩
  split
  · exact .inr ⟨rfl, rfl, rfl, rfl, rfl, fun _ => rfl⟩
  split
  · next field hf => exact .inl ⟨field, hf, rfl⟩
  next hf =>
  have hnone {b : Assembly} (h : a.field.isSome = true) : b.message = a.message := by
    rw [hf] at h
    cases h
  refine .inr ?_
  split
  · unfold closeMessage
    split <;> exact ⟨rfl, rfl, rfl, rfl, rfl, hnone⟩
  split
  · unfold closeContext
    split <;> exact ⟨rfl, rfl, rfl, rfl, rfl, hnone⟩
  split <;> exact ⟨rfl, rfl, rfl, rfl, rfl, hnone⟩

theorem isSome_of_inTarget {field : Option Field} (h : InTarget field) : field.isSome = true := by
  rcases h with rfl | rfl | rfl <;> rfl

/-- Variants are left over in a target alone, and a target stands in a message. -/
structure IsTidy (a : Assembly) : Prop where
  firstVariant : ¬InTarget a.field → a.firstVariant = none
  message : InTarget a.field → a.message.isSome = true
  variantOf : a.field = some .variant → a.variantOf = some .target ∨ a.variantOf = some .form

theorem isTidy_empty : IsTidy {} where
  firstVariant _ := rfl
  message h := absurd h not_inTarget_none
  variantOf h := by cases h

namespace IsTidy

/-- A text of the context or of the message opens outside of targets. -/
theorem not_inTarget (h : a.IsTidy) (ha : a.message = none ∨ a.field = none) :
    ¬InTarget a.field := by
  rcases ha with ha | ha
  · exact fun ht => by simpa [ha] using h.message ht
  · rw [ha]
    exact not_inTarget_none

theorem opens (h : a.IsTidy) (ho : a.Opens b) : b.IsTidy := by
  cases ho with
  | deeper | skip | byte | root | context | location =>
    exact ⟨h.firstVariant, h.message, h.variantOf⟩
  | message => exact ⟨h.firstVariant, fun _ => rfl, h.variantOf⟩
  | target => exact ⟨fun hn => absurd (.inl rfl) hn, fun _ => rfl, nofun⟩
  | text ha hf =>
    have hn := h.not_inTarget ha
    refine ⟨fun _ => h.firstVariant hn, fun ht => ?_, fun hv => absurd (Option.some.inj hv) hf.2.2⟩
    rcases ht with ht | ht | ht
    · exact absurd (Option.some.inj ht) hf.1
    · exact absurd (Option.some.inj ht) hf.2.1
    · exact absurd (Option.some.inj ht) hf.2.2
  | form hf =>
    exact ⟨fun hn => absurd (.inr (.inl rfl)) hn, fun _ => h.message (.inl hf), nofun⟩
  | variant ha hf =>
    refine ⟨fun hn => absurd (.inr (.inr rfl)) hn, fun _ => h.message ?_, fun _ => ?_⟩
    · rw [ha]
      rcases hf with rfl | rfl
      · exact .inl rfl
      · exact .inr (.inl rfl)
    · rcases hf with rfl | rfl
      · exact .inl rfl
      · exact .inr rfl

/-- Outside of fields nothing is left over. -/
theorem of_field_eq_none (hf : a.field = none) (hv : a.firstVariant = none) : a.IsTidy where
  firstVariant _ := hv
  message h := absurd (hf ▸ h) not_inTarget_none
  variantOf h := by rw [hf] at h; cases h

theorem closeField (h : a.IsTidy) (hf : a.field = some field) : (a.closeField field).IsTidy := by
  cases field with
  | variant =>
    have hv := h.variantOf hf
    have ht : InTarget a.variantOf := by
      rcases hv with hv | hv
      · exact .inl hv
      · exact .inr (.inl hv)
    refine ⟨fun hn => absurd ht hn, fun _ => h.message (.inr (.inr hf)), fun he => ?_⟩
    change a.variantOf = some .variant at he
    rw [he] at hv
    rcases hv with hv | hv <;> cases hv
  | form => exact ⟨fun _ => rfl, fun _ => h.message (.inr (.inl hf)), nofun⟩
  | contextName | contextComment =>
    refine of_field_eq_none rfl ?_
    simp only [Assembly.closeField, setInContext]
    split <;> rfl
  | _ =>
    refine of_field_eq_none rfl ?_
    simp only [Assembly.closeField]
    rw [setInMessage_eq]

theorem closeTag (h : a.IsTidy) (name : List Char) : (a.closeTag name).IsTidy := by
  rcases closeTag_cases a name with ⟨field, hf, hc⟩ | ⟨hf, -, -, hv, hvo, hm⟩
  · rw [hc]
    exact h.closeField hf
  · refine ⟨by rw [hf, hv]; exact h.firstVariant, fun ht => ?_, by rw [hf, hvo]; exact h.variantOf⟩
    rw [hf] at ht
    rw [hm (isSome_of_inTarget ht)]
    exact h.message ht

theorem addText (h : a.IsTidy) (s : List Char) : (a.addText s).IsTidy := by
  unfold Assembly.addText
  split
  · exact ⟨h.firstVariant, h.message, h.variantOf⟩
  · exact h

end IsTidy

theorem kept_isTidy : Kept IsTidy where
  opens := IsTidy.opens
  closeTag := IsTidy.closeTag
  addText := IsTidy.addText

/-- Outside of targets nothing takes the place of a text. -/
theorem HoldsText.storedText_eq {name : String} (h : a.HoldsText name field) (ht : a.IsTidy)
    (text : String) : a.storedText field text = a.firstVariant.getD text := by
  have hnone (hf : a.field = none) : a.firstVariant = none :=
    ht.firstVariant (by rw [hf]; exact not_inTarget_none)
  cases h with
  | form => rfl
  | ofMessage hm hf h =>
    obtain ⟨-, hform, -⟩ := ofMessageElement?_ne h
    rw [hnone hf]
    unfold storedText
    split
    · exact absurd rfl hform
    · rfl
  | contextName _ _ hf | contextComment _ _ hf | target _ hf =>
    rw [hnone hf]
    rfl

/-! ## A field that has just opened -/

/-- A start tag has taken one assembly to the other: the element of the field has just opened. -/
structure IsBegun (a b : Assembly) (field : Field) : Prop extends IsFree b where
  field_eq : b.field = some field
  text : b.text = ""
  firstVariant : b.firstVariant = a.firstVariant
  context : field.isOfContext = true → b.message = none ∧ b.context.isSome = true
  message : field.isOfContext = false → b.message.isSome = true
  forms : field = .target → b.forms = []
  notVariant : field ≠ .variant

theorem isOfContext_of_ofMessageElement? {name : String}
    (h : Field.ofMessageElement? name = some field) : field.isOfContext = false := by
  unfold Field.ofMessageElement? at h
  repeat' split at h
  all_goals
    cases h
    try rfl

theorem HoldsText.ne_byte {name : String} (h : a.HoldsText name field) : name ≠ "byte" := by
  cases h with
  | ofMessage hm hf h =>
    rintro rfl
    cases h
  | _ => decide

/-- Other than a target, a field opens by being begun and nothing else. -/
theorem IsFree.isBegun_beginField (ha : a.IsFree) (ht : field ≠ .target) (hv : field ≠ .variant)
    (hc : field.isOfContext = true → a.message = none ∧ a.context.isSome = true)
    (hm : field.isOfContext = false → a.message.isSome = true) :
    IsBegun a (a.beginField field) field where
  root := ha.root
  notClosed := ha.notClosed
  notSkipping := ha.notSkipping
  noByte := ha.noByte
  field_eq := rfl
  text := rfl
  firstVariant := rfl
  context := hc
  message := hm
  forms h := absurd h ht
  notVariant := hv

/-- The start tag of an element that holds a text opens its field. -/
theorem HoldsText.isBegun {tag : Tag} (h : a.HoldsText (String.ofList tag.name) field)
    (ha : a.IsFree) (ho : a.openTag tag = .ok b) : IsBegun a b field := by
  rw [openTag_of_isOpen ha.toIsOpen fun hbyte => h.ne_byte hbyte.1] at ho
  generalize String.ofList tag.name = name at h ho
  cases h with
  | contextName hc hm hf | contextComment hc hm hf =>
    simp only [hm, hc, if_true] at ho
    cases ho
    exact ha.isBegun_beginField (by decide) (by decide) (fun _ => ⟨hm, hc⟩)
      fun hctx => absurd hctx (by decide)
  | ofMessage hm hf h =>
    obtain ⟨m, hm'⟩ := Option.isSome_iff_exists.1 hm
    have hknown : name ≠ "location" ∧ name ≠ "translation" := by
      constructor <;> (rintro rfl; cases h)
    simp only [hm', hf, openInMessage, hknown.1, hknown.2, if_false, h] at ho
    cases ho
    obtain ⟨ht, -, hv⟩ := ofMessageElement?_ne h
    have hctx := isOfContext_of_ofMessageElement? h
    exact ha.isBegun_beginField ht hv (fun hc => by rw [hctx] at hc; cases hc) fun _ => hm
  | target hm hf =>
    obtain ⟨m, hm'⟩ := Option.isSome_iff_exists.1 hm
    simp only [hm', hf] at ho
    unfold openInMessage at ho
    rw [if_neg (by decide), if_pos rfl] at ho
    obtain ⟨attributes, -, ho⟩ := bind_eq_ok ho
    dsimp only at ho
    split at ho
    · cases ho
    · cases ho
      exact ⟨⟨⟨ha.root, ha.notClosed, ha.notSkipping⟩, ha.noByte⟩, rfl, rfl, rfl,
        fun hctx => absurd hctx (by decide), fun _ => rfl, fun _ => rfl, by decide⟩
  | form hm hf =>
    obtain ⟨m, hm'⟩ := Option.isSome_iff_exists.1 hm
    simp only [hm', hf] at ho
    cases ho
    exact ha.isBegun_beginField (by decide) (by decide) (fun hctx => absurd hctx (by decide))
      fun _ => hm

/-! ## A field that closes -/

namespace IsBegun

/-- In the field of an element that holds a text, all but `byte` elements and a few others are
skipped. -/
theorem knownNames (hb : IsBegun a b field) :
    b.knownNames = "byte" :: field.knownInside := by
  unfold Assembly.knownNames Field.knownInside
  rw [hb.field_eq, Option.isSome_some, if_pos rfl]
  cases hc : field.isOfContext with
  | true =>
    obtain ⟨hm, hctx⟩ := hb.context hc
    simp [hm, hctx]
  | false => simp [hb.message hc]

theorem closeTag (hb : IsBegun a b field) (text : String) (name : List Char) :
    { b with text }.closeTag name = { b with text }.closeField field :=
  closeTag_of_field (a := { b with text }) hb.field_eq hb.notSkipping hb.noByte name

/-- A field that closes stores its text, or the first variant if one is left over. -/
theorem stores_closeField (hb : IsBegun a b field) (text : String) :
    ({ b with text }.closeField field).Stores (a.firstVariant.getD text) field := by
  rw [← hb.firstVariant]
  have hctx := hb.context
  have hmsg := hb.message
  cases field with
  | variant => exact absurd rfl hb.notVariant
  | form => rfl
  | contextName | contextComment =>
    obtain ⟨c, hc⟩ := Option.isSome_iff_exists.1 (hctx rfl).2
    simp only [closeField, setInContext, hc]
    exact ⟨_, rfl, rfl⟩
  | target =>
    obtain ⟨m, hm⟩ := Option.isSome_iff_exists.1 (hmsg rfl)
    have hforms := hb.forms rfl
    simp only [closeField, setInMessage, hm, hforms]
    refine ⟨_, rfl, ?_⟩
    cases m.numerus <;> rfl
  | _ =>
    obtain ⟨m, hm⟩ := Option.isSome_iff_exists.1 (hmsg rfl)
    simp only [closeField, setInMessage, hm]
    exact ⟨_, rfl, rfl⟩

/-- The element is read by what stands in it. -/
theorem run_element (hb : IsBegun a b field) {first last : Piece} {tag : Tag}
    (hfirst : Event.ofPiece first = .ok (.opening tag)) (hopen : a.openTag tag = .ok b)
    (hlast : Event.ofPiece last = .ok (.closing tag.name)) {content : List Piece} {text : String}
    (hcontent : ∀ place nesting, ∃ place',
      Reading.run ⟨place, nesting, b⟩ content = .ok ⟨place', nesting, { b with text }⟩)
    (place : Nat) (nesting : Nesting) : ∃ place',
      Reading.run ⟨place, nesting, a⟩ (first :: (content ++ [last])) =
        .ok ⟨place', nesting, { b with text }.closeField field⟩ := by
  obtain ⟨place', hrun⟩ := hcontent (place + byteLength first.source) (tag.name :: nesting)
  refine ⟨place' + byteLength last.source, ?_⟩
  rw [Reading.run, Reading.take_event hfirst rfl hopen]
  refine (Reading.run_append hrun [last]).trans (Reading.run_singleton ?_)
  exact Reading.take_event hlast (Nesting.after_closing tag.name nesting)
    (congrArg Except.ok (hb.closeTag text tag.name))

end IsBegun

end Assembly

end MessageCatalog
