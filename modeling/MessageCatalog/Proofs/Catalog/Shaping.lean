import MessageCatalog.Proofs.Catalog.Events
import MessageCatalog.Proofs.Catalog.RoundTrip

/-!
# What is read is in shape

Whatever document is read, every message of the catalog has a target in the shape that it needs. The
invariant is `Assembly.InShape`: messages and contexts that are complete are in shape, and the open
message is, unless its target is still open or it has a count and has had no target yet. Each event
keeps the invariant, so a whole reading does.
-/

namespace MessageCatalog

open Markup

namespace Assembly

/-! ## The invariant -/

/-- The field is a target or stands in one. -/
def InTarget (field : Option Field) : Prop :=
  field = some .target ∨ field = some .form ∨ field = some .variant

/-- The message is in shape when its target needs nothing more. A message that has a count and has
had no target gets one when it closes. -/
def Settled (a : Assembly) (m : Message) : Prop :=
  m.IsShaped ∨ a.sawTarget = false ∧ m.numerus = true

/-- What is complete is in shape, and so is the open message unless its target is open. -/
structure InShape (a : Assembly) : Prop where
  contexts : ∀ c ∈ a.contexts, ∀ m ∈ c.messages, m.IsShaped
  messages : ∀ m ∈ a.messages, m.IsShaped
  message : ∀ m, a.message = some m → InTarget a.field ∨ a.Settled m
  variantOf : a.field = some .variant → a.variantOf = some .target ∨ a.variantOf = some .form

theorem not_inTarget_none : ¬InTarget none := by
  rintro (h | h | h) <;> cases h

theorem inShape_empty : InShape {} where
  contexts _ h := by cases h
  messages _ h := by cases h
  message _ h := by cases h
  variantOf h := by cases h

namespace InShape

variable {a b : Assembly}

/-- Outside a target the open message is settled. -/
theorem settled (h : a.InShape) {m : Message} (hm : a.message = some m)
    (hf : ¬InTarget a.field) : a.Settled m := by
  rcases h.message m hm with ht | hs
  · exact absurd ht hf
  · exact hs

/-! ## Elements that open -/

/-- A target that opens is open, and every other element leaves the open message settled. -/
theorem opens (h : a.InShape) (ho : a.Opens b) : b.InShape := by
  cases ho with
  | deeper | skip | byte | root | location => exact ⟨h.contexts, h.messages, h.message, h.variantOf⟩
  | context => exact ⟨h.contexts, List.forall_mem_nil _, h.message, h.variantOf⟩
  | message id numerus hm =>
    refine ⟨h.contexts, h.messages, ?_, h.variantOf⟩
    intro m hm'
    obtain rfl := Option.some.inj hm'
    cases numerus with
    | true => exact .inr (.inr ⟨rfl, rfl⟩)
    | false => exact .inr (.inl rfl)
  | target => exact ⟨h.contexts, h.messages, fun _ _ => .inl (.inl rfl), fun hv => by cases hv⟩
  | form => exact ⟨h.contexts, h.messages, fun _ _ => .inl (.inr (.inl rfl)), fun hv => by cases hv⟩
  | text ha hf =>
    refine ⟨h.contexts, h.messages, ?_, fun hv => absurd (Option.some.inj hv) hf.2.2⟩
    intro m hm
    rcases ha with ha | ha
    · rw [beginField, ha] at hm
      cases hm
    · refine .inr (h.settled hm ?_)
      rw [ha]
      exact not_inTarget_none
  | variant ha hf =>
    refine ⟨h.contexts, h.messages, fun _ _ => .inl (.inr (.inr rfl)), fun _ => ?_⟩
    rcases hf with rfl | rfl
    · exact .inl rfl
    · exact .inr rfl

/-! ## Elements that close -/

/-- A target that closes has the shape that its message needs. -/
theorem suits_closed (numerus : Bool) (forms : List String) (text : String) :
    (if numerus || !forms.isEmpty then Target.plural forms.reverse else .single text).Suits
      numerus := by
  cases numerus with
  | true => exact .inl rfl
  | false =>
    cases forms with
    | nil => rfl
    | cons form forms => exact .inr (by simp)

end InShape

/-- Any text but the target leaves alone what tells the shape of the message. -/
theorem shape_setInMessage (a : Assembly) (field : Field) (text : String) {m : Message}
    (hm : a.message = some m) (hf : field ≠ .target) :
    ∃ m', (a.setInMessage field text).message = some m' ∧ m'.target = m.target ∧
      m'.numerus = m.numerus := by
  unfold setInMessage
  rw [hm]
  cases field with
  | target => exact absurd rfl hf
  | contextName | contextComment | form | variant => exact ⟨m, hm, rfl, rfl⟩
  | _ => exact ⟨_, rfl, rfl, rfl⟩

namespace InShape

variable {a b : Assembly}

/-- A field of a message closes: a target, which is in shape then, or a text beside the target. -/
theorem setInMessage (h : a.InShape) {field : Field} (hf : a.field = some field)
    (hform : field ≠ .form) (hvariant : field ≠ .variant) (text : String) :
    ({ a.setInMessage field text with field := none } : Assembly).InShape := by
  rw [setInMessage_eq]
  refine ⟨h.contexts, h.messages, ?_, fun hv => by cases hv⟩
  intro m' hm'
  dsimp only at hm'
  right
  cases hm : a.message with
  | none =>
    unfold Assembly.setInMessage at hm'
    rw [hm] at hm'
    rw [hm] at hm'
    cases hm'
  | some m =>
    by_cases ht : field = .target
    · subst ht
      unfold Assembly.setInMessage at hm'
      rw [hm] at hm'
      obtain rfl := Option.some.inj hm'
      exact .inl (suits_closed m.numerus a.forms text)
    · have hs : a.Settled m := by
        refine h.settled hm ?_
        rw [hf]
        rintro (he | he | he)
        · exact ht (Option.some.inj he)
        · exact hform (Option.some.inj he)
        · exact hvariant (Option.some.inj he)
      obtain ⟨m₁, hm₁, htarget, hnumerus⟩ := shape_setInMessage a field text hm ht
      rw [hm₁] at hm'
      obtain rfl := Option.some.inj hm'
      unfold Settled Message.IsShaped at hs ⊢
      rw [htarget, hnumerus]
      exact hs

theorem setInContext (h : a.InShape) {field : Field} (hf : a.field = some field)
    (hc : ¬InTarget (some field)) (text : String) :
    ({ a.setInContext field text with field := none } : Assembly).InShape := by
  have hm : ∀ m, a.message = some m → a.Settled m := by
    intro m hm
    refine h.settled hm ?_
    rw [hf]
    exact hc
  unfold Assembly.setInContext
  cases a.context with
  | none => exact ⟨h.contexts, h.messages, fun m hm' => .inr (hm m hm'), fun hv => by cases hv⟩
  | some c =>
    cases field <;>
      exact ⟨h.contexts, h.messages, fun m hm' => .inr (hm m hm'), fun hv => by cases hv⟩

/-- A field closes. A variant goes back to what it is a variant of, and a form to its target. -/
theorem closeField (h : a.InShape) {field : Field} (hf : a.field = some field) :
    (a.closeField field).InShape := by
  have hc : ∀ text, ({ a with text, firstVariant := none } : Assembly).InShape :=
    fun text => ⟨h.contexts, h.messages, h.message, h.variantOf⟩
  cases field with
  | variant =>
    have hv := h.variantOf hf
    refine ⟨h.contexts, h.messages, fun _ _ => .inl ?_, fun he => ?_⟩
    · rcases hv with hv | hv
      · exact .inl hv
      · exact .inr (.inl hv)
    · change a.variantOf = some .variant at he
      rw [he] at hv
      rcases hv with hv | hv <;> cases hv
  | form => exact ⟨h.contexts, h.messages, fun _ _ => .inl (.inl rfl), fun hv => by cases hv⟩
  | contextName => exact (hc "").setInContext hf (by simp [InTarget]) _
  | contextComment => exact (hc "").setInContext hf (by simp [InTarget]) _
  | _ => exact (hc "").setInMessage hf (by decide) (by decide) _

/-- A message that closes is in shape. -/
theorem closeMessage (h : a.InShape) (hf : a.field = none) : a.closeMessage.InShape := by
  unfold Assembly.closeMessage
  cases hm : a.message with
  | none => exact h
  | some m =>
    have hs : a.Settled m := by
      refine h.settled hm ?_
      rw [hf]
      exact not_inTarget_none
    refine ⟨h.contexts, List.forall_mem_cons.2 ⟨?_, h.messages⟩, ?_, h.variantOf⟩
    · dsimp only
      split
      · next hn =>
        rw [Bool.and_eq_true] at hn
        exact .inl hn.2
      · next hn =>
        rcases hs with hs | ⟨hsaw, hnumerus⟩
        · exact hs
        · exact absurd (by rw [hsaw, hnumerus]; rfl) hn
    · intro _ hm'
      cases hm'

theorem closeContext (h : a.InShape) : a.closeContext.InShape := by
  unfold Assembly.closeContext
  cases a.context with
  | none => exact h
  | some c =>
    refine ⟨?_, h.messages, h.message, h.variantOf⟩
    refine List.forall_mem_cons.2 ⟨?_, h.contexts⟩
    intro m hm
    exact h.messages m (List.mem_reverse.1 hm)

theorem closeTag (h : a.InShape) (name : List Char) : (a.closeTag name).InShape := by
  unfold Assembly.closeTag
  dsimp only
  split
  · exact ⟨h.contexts, h.messages, h.message, h.variantOf⟩
  split
  · exact ⟨h.contexts, h.messages, h.message, h.variantOf⟩
  split
  · next field hf => exact h.closeField hf
  · next hf =>
    split
    · exact h.closeMessage hf
    split
    · exact h.closeContext
    split
    · exact ⟨h.contexts, h.messages, h.message, h.variantOf⟩
    · exact h

/-! ## Text -/

theorem addText (h : a.InShape) (s : List Char) : (a.addText s).InShape := by
  unfold Assembly.addText
  split
  · exact ⟨h.contexts, h.messages, h.message, h.variantOf⟩
  · exact h

end InShape

/-- Every event keeps what has been put together in shape. -/
theorem kept_inShape : Kept InShape where
  opens := InShape.opens
  closeTag := InShape.closeTag
  addText := InShape.addText

end Assembly

/-! ## Documents -/

/-- A catalog that is put together is in shape. -/
theorem Assembly.InShape.finish {a : Assembly} {c : Catalog} (h : a.InShape)
    (hf : a.finish = .ok c) : c.IsShaped := by
  unfold Assembly.finish at hf
  split at hf
  · cases hf
  split at hf
  · cases hf
    intro e he
    obtain ⟨context, hc, he⟩ := List.mem_flatMap.1 he
    obtain ⟨m, hm, rfl⟩ := List.mem_map.1 he
    exact h.contexts context (List.mem_reverse.1 hc) m hm
  · cases hf

namespace Catalog

/-- A catalog that is read is in shape, whatever the document holds besides. -/
theorem isShaped_of_parseChars {s : List Char} {c : Catalog} (h : parseChars s = .ok c) :
    c.IsShaped := by
  obtain ⟨r, hr, h⟩ := parseChars_eq_ok_iff.1 h
  have hrun := (Reading.runAll_eq_ok_iff.1 hr).2
  exact (Assembly.kept_inShape.run hrun Assembly.inShape_empty).finish h

theorem isShaped_of_parseBytes {bytes : List UInt8} {c : Catalog} (h : parseBytes bytes = .ok c) :
    c.IsShaped := by
  obtain ⟨s, -, hs⟩ := bind_eq_ok h
  exact isShaped_of_parseChars hs

/-! ## Catalogs in shape -/

namespace IsShaped

variable {c : Catalog}

/-- A catalog in shape is written and read back as itself. -/
theorem parseChars_eq (h : c.IsShaped) : parseChars c.printChars = .ok c := by
  rw [Catalog.parseChars_printChars, shaped_eq_self_iff.2 h]

theorem parse_eq (h : c.IsShaped) : parse c.print = .ok c := by
  rw [Catalog.parse_print, shaped_eq_self_iff.2 h]

theorem parseBytes_eq (h : c.IsShaped) : parseBytes c.printBytes = .ok c := by
  rw [parseBytes_of_decode c.decode_printBytes, h.parseChars_eq]

end IsShaped

end Catalog

end MessageCatalog
