import MessageCatalog.Catalog.Printing
import MessageCatalog.Proofs.Catalog.Elements
import MessageCatalog.Proofs.Catalog.Shape

/-!
# Reading a message back

A message is read back element by element, each in a state that has all the elements in front of it.
Its target comes back in the shape that the message needs, since a target with a text where there
should be forms, or with no forms where there should be a text, leaves no mark in the file.
-/

namespace MessageCatalog

open Markup

/-- The message when its target closes with some text and some forms, latest first. -/
def Message.targeted (m : Message) (text : String) (forms : List String) : Message :=
  { m with target := if m.numerus || !forms.isEmpty then .plural forms.reverse else .single text }

namespace Assembly

section Elements
variable {r : Catalog} {a : Assembly} {c : Context} {m : Message}

/-! ## Targets -/

/-- The target of the open message is open, with some text and some forms so far. -/
def inTarget (r : Catalog) (a : Assembly) (c : Context) (m : Message) (text : String)
    (forms : List String) : Assembly :=
  { inMessage r { a with sawTarget := true } c m with field := some .target, text, forms }

/-- The attributes of a target, which carry the mark of the status. -/
def targetAttributes (status : Status) : List Attribute :=
  optionalAttribute "type" status.mark?

theorem isTag_target (status : Status) : IsTag "translation" (targetAttributes status) :=
  IsTag.of_sublist ["type"] (by decide) (by decide) (by decide) (keys_optionalAttribute _ _)

theorem openTag_target (status : Status) :
    (inMessage r a c m).openTag (writtenTag "translation" (targetAttributes status)) =
      .ok (inTarget r a c { m with status } "" []) := by
  have ht := isTag_target status
  have hmark : attribute? (targetAttributes status) "type" = status.mark? := by
    simp [targetAttributes]
  rw [openTag_inMessage ht, openInMessage, if_neg (by decide), if_pos rfl, ht.attributes_eq]
  simp only [bind, Except.bind, hmark, Status.ofMark?_mark?]
  rfl

theorem closeTag_target (text : String) (forms : List String) :
    (inTarget r a c m text forms).closeTag "translation".toList =
      inMessage r { a with sawTarget := true } c (m.targeted text forms) := by
  rfl

/-- The tags of a target as they are written. -/
theorem targetTags_eq (status : Status) (s : List Char) :
    Printing.targetTag status ++ s ++ Printing.targetEnd =
      '<' :: ("translation".toList ++ writeAttributes (targetAttributes status) ++ '>' ::
        (s ++ '<' :: '/' :: ("translation".toList ++ ['>']))) := by
  unfold Printing.targetTag Printing.targetEnd targetAttributes
  rw [optionalAttr_eq]
  simp

/-- A target is read through what stands in it. -/
theorem readsLines_target {s : List Char} {text : String} {forms : List String} (status : Status)
    (h : Reads s (inTarget r a c { m with status } "" [])
      (inTarget r a c { m with status } text forms)) :
    ReadsLines [List.replicate 8 ' ' ++ (Printing.targetTag status ++ s ++ Printing.targetEnd)]
      (inMessage r a c m)
      (inMessage r { a with sawTarget := true } c ({ m with status }.targeted text forms)) := by
  have hr := Reads.element (isTag_target status) (openTag_target status) h
    (closeTag_target text forms)
  rw [← targetTags_eq] at hr
  exact ReadsLines.singleton hr rfl rfl 8

/-- A plural form is read, with the blanks in front of it and the line break behind it. -/
theorem reads_form (form text : String) (forms : List String) :
    Reads (Printing.element 12 "numerusform" form ++ ['\n']) (inTarget r a c m text forms)
      (inTarget r a c m "\n" (form :: forms)) := by
  have h1 := reads_blanks (s := List.replicate 12 ' ')
    (fun c hc => .inl (List.eq_of_mem_replicate hc)) (inTarget r a c m text forms)
  have hn : IsName "numerusform".toList := by decide
  have h2 := reads_element hn (a := (inTarget r a c m text forms).addText (List.replicate 12 ' '))
    ⟨rfl, rfl⟩ rfl form
  have h3 := reads_blanks (s := ['\n']) (by simp) (inTarget r a c m "" (form :: forms))
  rw [element_eq]
  exact (h1.append h2).append h3

/-- Plural forms are read in order. Only blanks are left of the text around them. -/
theorem reads_forms (written : List String) (text : String) (forms : List String) : ∃ text',
    Reads ((written.map (Printing.element 12 "numerusform")).flatMap (· ++ ['\n']))
      (inTarget r a c m text forms) (inTarget r a c m text' (written.reverse ++ forms)) := by
  induction written generalizing text forms with
  | nil => exact ⟨text, Reads.nil _⟩
  | cons form written ih =>
    obtain ⟨text', h⟩ := ih "\n" (form :: forms)
    refine ⟨text', ?_⟩
    have hr := (reads_form form text forms).append h
    simpa using hr

/-- The plural forms of a target are read, with the line break behind its tag and the blanks in
front of its end. -/
theorem reads_formLines (written : List String) : ∃ text',
    Reads (['\n'] ++ (written.map (Printing.element 12 "numerusform")).flatMap (· ++ ['\n']) ++
        List.replicate 8 ' ')
      (inTarget r a c m "" []) (inTarget r a c m text' written.reverse) := by
  have h1 := reads_blanks (s := ['\n']) (by simp) (inTarget r a c m "" [])
  obtain ⟨text', h2⟩ := reads_forms (r := r) (a := a) (c := c) (m := m) written "\n" []
  have h3 := reads_blanks (s := List.replicate 8 ' ')
    (fun c hc => .inl (List.eq_of_mem_replicate hc))
    (inTarget r a c m text' (written.reverse ++ []))
  rw [List.append_nil] at h2 h3
  exact ⟨_, (h1.append h2).append h3⟩

/-- A target is read back in the shape that its message needs. -/
theorem readsLines_printTarget (status : Status) (t : Target) :
    ReadsLines (Printing.target status t) (inMessage r a c m)
      (inMessage r { a with sawTarget := true } c
        { m with status, target := t.shaped m.numerus }) := by
  rcases t with text | (_ | ⟨form, forms⟩)
  · -- One text, which is lost if the message has forms.
    have hs : Reads (escapeText text.toList) (inTarget r a c { m with status } "" [])
        (inTarget r a c { m with status } text []) := by
      have h := reads_escapeText (a := inTarget r a c { m with status } "" []) rfl rfl rfl
        text.toList
      rw [String.ofList_toList] at h
      simpa [inTarget] using h
    have h := readsLines_target status hs
    simpa [Printing.target, Target.shaped, Message.targeted] using h
  · -- No forms, which is an empty text if the message has none.
    have h := readsLines_target status (Reads.nil (inTarget r a c { m with status } "" []))
    simpa [Printing.target, Target.shaped, Message.targeted] using h
  · -- Forms, between which nothing but blanks stands.
    obtain ⟨text', hs⟩ :=
      reads_formLines (r := r) (a := a) (c := c) (m := { m with status }) (form :: forms)
    have h := readsLines_target status hs
    simpa [Printing.target, Target.shaped, Message.targeted, ReadsLines] using h

/-! ## Messages -/

/-- The attributes of a message. -/
def messageAttributes (m : Message) : List Attribute :=
  optionalAttribute "id" m.id ++
    optionalAttribute "numerus" (if m.numerus then some "yes" else none)

theorem isTag_message (m : Message) : IsTag "message" (messageAttributes m) := by
  refine IsTag.of_sublist ["id", "numerus"] (by decide) (by decide) (by decide) ?_
  rw [messageAttributes, List.map_append]
  exact (keys_optionalAttribute _ _).append (keys_optionalAttribute _ _)

/-- The message when its tag opens, with nothing in it yet. -/
def opened (m : Message) : Message :=
  { id := m.id, numerus := m.numerus }

theorem openTag_message (m : Message) :
    (inContext r a c).openTag (writtenTag "message" (messageAttributes m)) =
      .ok (inMessage r { a with locations := [], sawTarget := false } c (opened m)) := by
  have ht := isTag_message m
  have hid : attribute? (messageAttributes m) "id" = m.id := by
    simp [messageAttributes]
  have hnumerus : decide (attribute? (messageAttributes m) "numerus" = some "yes") = m.numerus := by
    cases hn : m.numerus <;> simp [messageAttributes, hn]
  rw [openTag_inContext ht, openInContext, if_neg (by decide), if_neg (by decide), if_pos rfl,
    ht.attributes_eq]
  simp only [bind, Except.bind, hid, hnumerus]
  rfl

theorem readsLines_locations (written : List Location) :
    ReadsLines (written.map Printing.location) (inMessage r a c m)
      (inMessage r { a with locations := written.reverse ++ a.locations } c m) := by
  induction written generalizing a with
  | nil => exact ReadsLines.nil _
  | cons l written ih =>
    have h := (readsLines_location l).append (ih (a := { a with locations := l :: a.locations }))
    simpa using h

/-- The lines between the tags of a message. -/
def messageLines (m : Message) : List (List Char) :=
  m.locations.map Printing.location ++ [Printing.element 8 "source" m.source] ++
    Printing.element? 8 "oldsource" m.oldSource ++ Printing.element? 8 "comment" m.comment ++
    Printing.element? 8 "oldcomment" m.oldComment ++
    Printing.element? 8 "extracomment" m.extraComment ++
    Printing.element? 8 "translatorcomment" m.translatorComment ++
    Printing.target m.status m.target

theorem readsLines_messageLines (m : Message) :
    ReadsLines (messageLines m)
      (inMessage r { a with locations := [], sawTarget := false } c (opened m))
      (inMessage r { a with locations := m.locations.reverse, sawTarget := true } c
        { m.shaped with locations := [] }) := by
  -- Every text is put into a message that has all the texts in front of it.
  have h1 := readsLines_locations (r := r) (c := c) (m := opened m)
    (a := { a with locations := [], sawTarget := false }) m.locations
  rw [List.append_nil] at h1
  have h2 := h1.append (readsLines_messageText "source" rfl m.source)
  have h3 := h2.append (readsLines_messageText? "oldsource" rfl
    (fun t => { opened m with source := m.source, oldSource := t }) (fun _ => rfl) m.oldSource)
  have h4 := h3.append (readsLines_messageText? "comment" rfl
    (fun t => { opened m with source := m.source, oldSource := m.oldSource, comment := t })
    (fun _ => rfl) m.comment)
  have h5 := h4.append (readsLines_messageText? "oldcomment" rfl
    (fun t => { opened m with
      source := m.source, oldSource := m.oldSource, comment := m.comment, oldComment := t })
    (fun _ => rfl) m.oldComment)
  have h6 := h5.append (readsLines_messageText? "extracomment" rfl
    (fun t => { opened m with
      source := m.source, oldSource := m.oldSource, comment := m.comment,
      oldComment := m.oldComment, extraComment := t })
    (fun _ => rfl) m.extraComment)
  have h7 := h6.append (readsLines_messageText? "translatorcomment" rfl
    (fun t => { opened m with
      source := m.source, oldSource := m.oldSource, comment := m.comment,
      oldComment := m.oldComment, extraComment := m.extraComment, translatorComment := t })
    (fun _ => rfl) m.translatorComment)
  exact h7.append (readsLines_printTarget m.status m.target)

theorem printing_message_eq (m : Message) :
    Printing.message m =
      [List.replicate 4 ' ' ++ '<' :: ("message".toList ++ writeAttributes (messageAttributes m) ++
        ['>'])] ++ messageLines m ++
        [List.replicate 4 ' ' ++ '<' :: '/' :: ("message".toList ++ ['>'])] := by
  have hn : (if m.numerus then Printing.attr "numerus" "yes" else []) =
      Printing.optionalAttr "numerus" (if m.numerus then some "yes" else none) := by
    cases m.numerus <;> rfl
  unfold Printing.message messageLines messageAttributes
  rw [hn, optionalAttr_eq, optionalAttr_eq]
  simp

/-- The open context takes a message. -/
def takeMessage (a : Assembly) (m : Message) : Assembly :=
  { a with
    messages := m.shaped :: a.messages, locations := m.locations.reverse, sawTarget := true }

theorem closeTag_message (m : Message) :
    (inMessage r { a with locations := m.locations.reverse, sawTarget := true } c
        { m.shaped with locations := [] }).closeTag "message".toList =
      inContext r (a.takeMessage m) c := by
  have h : (inMessage r { a with locations := m.locations.reverse, sawTarget := true } c
      { m.shaped with locations := [] }).closeTag "message".toList =
        { inContext r (a.takeMessage m) c with
          messages := { m.shaped with locations := m.locations.reverse.reverse } :: a.messages } :=
    rfl
  rw [h, List.reverse_reverse]
  rfl

/-- A message is read back with its target in shape. -/
theorem readsLines_message (m : Message) :
    ReadsLines (Printing.message m) (inContext r a c) (inContext r (a.takeMessage m) c) := by
  rw [printing_message_eq]
  exact ReadsLines.element (isTag_message m) (openTag_message m) (readsLines_messageLines m)
    (closeTag_message m) ⟨rfl, rfl, rfl, rfl⟩ 4

theorem readsLines_messages (written : List Message) :
    ReadsLines (written.flatMap Printing.message) (inContext r a c)
      (inContext r (written.foldl takeMessage a) c) := by
  induction written generalizing a with
  | nil => exact ReadsLines.nil _
  | cons m written ih =>
    rw [List.flatMap_cons, List.foldl_cons]
    exact (readsLines_message m).append ih

theorem messages_foldl_takeMessage (written : List Message) (a : Assembly) :
    (written.foldl takeMessage a).messages =
      (written.map Message.shaped).reverse ++ a.messages := by
  induction written generalizing a with
  | nil => rfl
  | cons m written ih => simp [ih, takeMessage]

theorem contexts_foldl_takeMessage (written : List Message) (a : Assembly) :
    (written.foldl takeMessage a).contexts = a.contexts := by
  induction written generalizing a with
  | nil => rfl
  | cons m written ih =>
    rw [List.foldl_cons, ih]
    rfl

end Elements

end Assembly

end MessageCatalog
