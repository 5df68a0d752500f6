import MessageCatalog.Proofs.Catalog.Reading

/-!
# What events do to a catalog being assembled

An element that opens does one of a few things, which depend on what is open already
(`Assembly.Opens`). So a property of what has been assembled is kept by every event when these keep
it and text and closing tags do (`Assembly.Kept`), and then a whole reading keeps it.
-/

namespace MessageCatalog

open Markup

/-! ## Outcomes -/

/-- What two steps yield, the second step yields from what the first one does. -/
theorem bind_eq_ok {ε α β : Type} {x : Except ε α} {f : α → Except ε β} {b : β}
    (h : (x >>= f) = .ok b) : ∃ a, x = .ok a ∧ f a = .ok b := by
  cases x with
  | error e => cases h
  | ok a => exact ⟨a, rfl, h⟩

theorem mapError_eq_ok {ε ε' α : Type} {f : ε → ε'} {x : Except ε α} {a : α}
    (h : x.mapError f = .ok a) : x = .ok a := by
  cases x with
  | error e => cases h
  | ok b =>
    cases h
    rfl

namespace Assembly

/-! ## Elements that open -/

/-- What an element that opens does. -/
inductive Opens (a : Assembly) : Assembly → Prop
  /-- It stands in an element that is being skipped. -/
  | deeper (hs : 0 < a.skipDepth) : Opens a { a with skipDepth := a.skipDepth + 1 }
  /-- It is not part of the format where it stands. -/
  | skip : Opens a a.skip
  /-- It stands for a character of the open field. -/
  | byte (c : Char) (hf : a.field.isSome = true) :
    Opens a { a with text := a.text.push c, inByte := true }
  /-- It is the root. -/
  | root {c : Catalog} (ha : a.catalog = none) (hc : c.contexts = []) :
    Opens a { a with catalog := some c }
  | context (hm : a.message = none) (hc : a.context = none) :
    Opens a { a with context := some {}, messages := [] }
  | message (id : Option String) (numerus : Bool) (hm : a.message = none) :
    Opens a { a with message := some { id, numerus }, locations := [], sawTarget := false }
  | location (l : Location) (hf : a.field = none) :
    Opens a { a with locations := l :: a.locations, skipDepth := 1 }
  | target {m : Message} (status : Status) (hm : a.message = some m) (hf : a.field = none) :
    Opens a ({ a with message := some { m with status }, sawTarget := true, forms := [] }.beginField
      .target)
  /-- A text of the context or of the message. -/
  | text {field : Field} (ha : a.message = none ∨ a.field = none)
    (hf : field ≠ .target ∧ field ≠ .form ∧ field ≠ .variant) : Opens a (a.beginField field)
  | form (hf : a.field = some .target) : Opens a (a.beginField .form)
  | variant {field : Field} (ha : a.field = some field) (hf : field = .target ∨ field = .form) :
    Opens a ({ a with variantOf := some field }.beginField .variant)

section Opening
variable {a b : Assembly} {tag : Tag} {name : String}

theorem opens_openByte (hf : a.field.isSome = true) (h : a.openByte tag = .ok b) : a.Opens b := by
  unfold openByte at h
  obtain ⟨attributes, -, h⟩ := bind_eq_ok h
  split at h
  · cases h
  · obtain ⟨c, -, h⟩ := bind_eq_ok h
    cases h
    exact .byte c hf

theorem opens_openRoot (ha : a.catalog = none) (h : a.openRoot name tag = .ok b) : a.Opens b := by
  unfold openRoot at h
  split at h
  · cases h
  · obtain ⟨attributes, -, h⟩ := bind_eq_ok h
    cases h
    exact .root ha rfl

theorem opens_openInContext (hm : a.message = none) (h : a.openInContext name tag = .ok b) :
    a.Opens b := by
  unfold openInContext at h
  split at h
  · cases h
    exact .text (.inl hm) (by decide)
  split at h
  · cases h
    exact .text (.inl hm) (by decide)
  split at h
  · obtain ⟨attributes, -, h⟩ := bind_eq_ok h
    cases h
    exact .message _ _ hm
  · cases h
    exact .skip

theorem ofMessageElement?_ne {field : Field} (h : Field.ofMessageElement? name = some field) :
    field ≠ .target ∧ field ≠ .form ∧ field ≠ .variant := by
  unfold Field.ofMessageElement? at h
  repeat' split at h
  all_goals
    cases h
    try decide

theorem opens_openInMessage {m : Message} (hm : a.message = some m) (hf : a.field = none)
    (h : a.openInMessage m name tag = .ok b) : a.Opens b := by
  unfold openInMessage at h
  split at h
  · obtain ⟨attributes, -, h⟩ := bind_eq_ok h
    cases h
    exact .location _ hf
  split at h
  · obtain ⟨attributes, -, h⟩ := bind_eq_ok h
    dsimp only at h
    split at h
    · cases h
    · cases h
      exact .target _ hm hf
  split at h
  · next field hfield =>
    cases h
    exact .text (.inr hf) (ofMessageElement?_ne hfield)
  · cases h
    exact .skip

theorem opens_openInField {field : Field} (hf : a.field = some field) (name : String) :
    a.Opens (a.openInField field name) := by
  unfold openInField
  split
  · next h =>
    obtain ⟨rfl, -⟩ := h
    exact .form hf
  split
  · next h => exact .variant hf h.1
  · exact .skip

theorem opens_openTag (h : a.openTag tag = .ok b) : a.Opens b := by
  unfold openTag at h
  dsimp only at h
  split at h
  · next hs =>
    cases h
    exact .deeper hs
  split at h
  · next hbyte => exact opens_openByte hbyte.2 h
  split at h
  · next ha => exact opens_openRoot (Option.isNone_iff_eq_none.1 ha) h
  split at h
  · cases h
  split at h
  · next m hm =>
    split at h
    · next field hf =>
      cases h
      exact opens_openInField hf _
    · next hf => exact opens_openInMessage hm hf h
  · next hm =>
    split at h
    · exact opens_openInContext hm h
    · next hc =>
      split at h
      · cases h
        exact .context hm (by simpa using hc)
      split at h
      · cases h
      · cases h
        exact .skip

end Opening

/-- When the message takes a text, only the message and the forms change. -/
theorem setInMessage_eq (a : Assembly) (field : Field) (text : String) :
    a.setInMessage field text =
      { a with
        message := (a.setInMessage field text).message
        forms := (a.setInMessage field text).forms } := by
  unfold setInMessage
  cases a.message with
  | none => rfl
  | some m => cases field <;> rfl

end Assembly

/-- A piece of a document is taken as an event. -/
theorem Reading.exists_event_of_take {r r' : Reading} {piece : Piece}
    (h : r.take piece = .ok r') : ∃ e, Event.ofPiece piece = .ok e ∧
      r.nesting.after e = .ok r'.nesting ∧ r.assembly.take e = .ok r'.assembly := by
  unfold Reading.take at h
  obtain ⟨event, he, h⟩ := bind_eq_ok h
  obtain ⟨nesting, hn, h⟩ := bind_eq_ok h
  obtain ⟨assembly, ha, h⟩ := bind_eq_ok h
  cases h
  exact ⟨event, mapError_eq_ok he, mapError_eq_ok hn, mapError_eq_ok ha⟩

/-! ## Properties that events keep -/

namespace Assembly

/-- A property that is kept when an element opens or closes and when text is added. -/
structure Kept (P : Assembly → Prop) : Prop where
  opens : ∀ {a b}, P a → a.Opens b → P b
  closeTag : ∀ {a}, P a → ∀ name, P (a.closeTag name)
  addText : ∀ {a}, P a → ∀ s, P (a.addText s)

/-- No event breaks the property. -/
theorem Kept.take {P : Assembly → Prop} (hP : Kept P) {a b : Assembly} {e : Event}
    (h : a.take e = .ok b) (ha : P a) : P b := by
  unfold Assembly.take at h
  cases e with
  | opening tag => exact hP.opens ha (opens_openTag h)
  | selfClosing tag =>
    dsimp only at h
    cases ho : a.openTag tag with
    | error fault =>
      rw [ho] at h
      cases h
    | ok c =>
      rw [ho] at h
      cases h
      exact hP.closeTag (hP.opens ha (opens_openTag ho)) _
  | closing name =>
    cases h
    exact hP.closeTag ha name
  | text raw =>
    dsimp only at h
    split at h
    · cases h
    · cases h
      exact hP.addText ha _
  | verbatim content =>
    cases h
    exact hP.addText ha content
  | aside =>
    cases h
    exact ha

/-- What holds in front of some pieces and is kept by every event holds behind them. -/
theorem Kept.run {P : Assembly → Prop} (hP : Kept P) {r r' : Reading} {pieces : List Piece}
    (hr : r.run pieces = .ok r') (h : P r.assembly) : P r'.assembly := by
  induction pieces generalizing r with
  | nil =>
    cases hr
    exact h
  | cons piece rest ih =>
    obtain ⟨q, hq, hr⟩ := Reading.run_cons hr
    obtain ⟨e, -, -, he⟩ := Reading.exists_event_of_take hq
    exact ih hr (hP.take he h)

end Assembly

end MessageCatalog
