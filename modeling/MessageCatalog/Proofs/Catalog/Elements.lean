import MessageCatalog.Proofs.Catalog.Reading
import MessageCatalog.Proofs.Numeral

/-!
# Reading the elements of a catalog

What stands in a catalog file is read in an open field or between elements. In a field every text
is read back as it was written, control characters included (`Assembly.reads_escapeText`). Between
elements, which is to say in the root, in a context or in a message (`Assembly.inRoot`,
`Assembly.inContext`, `Assembly.inMessage`), blanks and line breaks do nothing. From these two
follow the elements that hold a text.
-/

namespace MessageCatalog

open Markup

/-! ## Control characters -/

theorem escapeChar_alphanum {c : Char} (h : c.isAlphanum = true) : escapeChar c = [c] := by
  simp [escapeChar, isAlphanum_ne h (d := '<') rfl, isAlphanum_ne h (d := '>') rfl,
    isAlphanum_ne h (d := '&') rfl, isAlphanum_ne h (d := '\x27') rfl,
    isAlphanum_ne h (d := '\x22') rfl]

/-- Letters and digits need no entity. -/
theorem escape_alphanum {s : List Char} (h : ∀ c ∈ s, c.isAlphanum = true) : escape s = s := by
  induction s with
  | nil => rfl
  | cons c s ih =>
    rw [escape, List.flatMap_cons, escapeChar_alphanum (h c List.mem_cons_self)]
    exact congrArg (c :: ·) (ih fun d hd => h d (List.mem_cons_of_mem _ hd))

/-- The value of the `byte` element for a character. -/
def writtenValue (c : Char) : String :=
  String.ofList ('x' :: Text.hex c.toNat)

theorem charOfCode?_toNat (c : Char) : charOfCode? c.toNat = some c := by
  have h : c.toNat.isValidChar := c.valid
  have hc : Char.ofNat c.toNat = Char.ofNatAux c.toNat h := dif_pos h
  rw [charOfCode?, dif_pos h, ← hc, Char.ofNat_toNat]

/-- The number in a `byte` element is read back as the character. -/
theorem byteValue_writtenValue (c : Char) : byteValue (writtenValue c) = .ok c := by
  have hlt : c.toNat < Nat.pow 2 32 := c.val.toNat_lt
  have hn : Text.readNumeral 16 (Nat.pow 2 32) (Text.hex c.toNat) = .ok c.toNat :=
    Text.readNumeral_toDigits (by decide) (by decide) hlt
  simp only [byteValue, writtenValue, String.toList_ofList, hn, charOfCode?_toNat]

/-- The attributes of the `byte` element for a character. -/
def byteAttributes (c : Char) : List Attribute :=
  [⟨"value", writtenValue c⟩]

theorem escapeTextChar_control {c : Char} (h : isBareControl c = true) :
    escapeTextChar c =
      '<' :: ("byte".toList ++ writeAttributes (byteAttributes c) ++ ['/', '>']) := by
  have hx : ∀ d ∈ 'x' :: Text.hex c.toNat, d.isAlphanum = true := by
    intro d hd
    rcases List.mem_cons.1 hd with rfl | hd
    · rfl
    · exact Text.isAlphanum_of_mem_toDigits (by decide) (by decide) _ d hd
  rw [escapeTextChar, if_pos h]
  simp [writeAttributes, byteAttributes, writtenValue, Printing.attr, escape_alphanum hx]

theorem isTag_byte (value : String) : IsTag "byte" [⟨"value", value⟩] :=
  IsTag.of_sublist ["value"] (by decide) (by decide) (by decide) (by simp)

namespace Assembly

/-! ## Text in a field -/

/-- The character that a `byte` element stands for. -/
def byteOf (tag : Tag) : Except ContentFault Char := do
  let attributes ← attributesOf tag
  match attribute? attributes "value" with
  | none => .error .byteWithoutValue
  | some value => byteValue value

theorem byteOf_writtenTag {value : String} {c : Char} (hv : byteValue value = .ok c) :
    byteOf (writtenTag "byte" [⟨"value", value⟩]) = .ok c := by
  rw [byteOf, (isTag_byte value).attributes_eq, ← hv]
  rfl

section InField
variable {a : Assembly}

/-- In a field a `byte` element adds its character. -/
theorem openTag_byte (hf : a.field.isSome = true) (hs : a.skipDepth = 0) {tag : Tag}
    (hn : String.ofList tag.name = "byte") :
    a.openTag tag =
      (byteOf tag).map fun c => { a with text := a.text.push c, inByte := true } := by
  unfold openTag
  dsimp only
  rw [if_neg (Nat.not_lt.2 (Nat.le_of_eq hs)), if_pos ⟨hn, hf⟩, openByte, byteOf]
  cases attributesOf tag with
  | error fault => rfl
  | ok attributes =>
    simp only [bind, Except.bind]
    cases attribute? attributes "value" with
    | none => rfl
    | some value => cases byteValue value <;> rfl

/-- A `byte` element that closes leaves the field as it was, but for the character. -/
theorem closeTag_byte (hs : a.skipDepth = 0) (hb : a.inByte = false) {name : List Char}
    (hn : String.ofList name = "byte") (text : String) :
    { a with text, inByte := true }.closeTag name = { a with text } := by
  unfold closeTag
  simp [hs, hn, ← hb]

/-- A `byte` element is read as its character. -/
theorem reads_byte (hf : a.field.isSome = true) (hs : a.skipDepth = 0) (hb : a.inByte = false)
    {value : String} {c : Char} (hv : byteValue value = .ok c) :
    Reads ('<' :: ("byte".toList ++ writeAttributes [⟨"value", value⟩] ++ ['/', '>'])) a
      { a with text := a.text ++ String.ofList [c] } := by
  have ht := isTag_byte value
  refine Reads.selfClosing ht ?_ (closeTag_byte hs hb rfl (a.text.push c))
  rw [openTag_byte hf hs ht.name_eq, byteOf_writtenTag hv]
  rfl

theorem reads_control (hf : a.field.isSome = true) (hs : a.skipDepth = 0) (hb : a.inByte = false)
    {c : Char} (h : isBareControl c = true) :
    Reads (escapeTextChar c) a { a with text := a.text ++ String.ofList [c] } := by
  rw [escapeTextChar_control h]
  exact reads_byte hf hs hb (byteValue_writtenValue c)

theorem addText_of_field (hf : a.field.isSome = true) (hs : a.skipDepth = 0) (s : List Char) :
    a.addText s = { a with text := a.text ++ String.ofList s } := by
  simp [addText, hf, hs]

theorem reads_plain (hf : a.field.isSome = true) (hs : a.skipDepth = 0)
    {c : Char} (h : isBareControl c = false) :
    Reads (escapeTextChar c) a { a with text := a.text ++ String.ofList [c] } := by
  have he : escapeTextChar c = escape [c] := by simp [escapeTextChar, h, escape]
  rw [he, ← addText_of_field hf hs]
  exact Reads.text (not_mem_escape (by simp) _) (unescape_escape [c]) a

/-- A text is read back in an open field. -/
theorem reads_escapeText (hf : a.field.isSome = true) (hs : a.skipDepth = 0)
    (hb : a.inByte = false) (s : List Char) :
    Reads (escapeText s) a { a with text := a.text ++ String.ofList s } := by
  induction s generalizing a with
  | nil => simpa [escapeText] using Reads.nil a
  | cons c s ih =>
    -- A control character is an element of its own, and any other is text.
    have hc : Reads (escapeTextChar c) a { a with text := a.text ++ String.ofList [c] } := by
      cases h : isBareControl c with
      | false => exact reads_plain hf hs h
      | true => exact reads_control hf hs hb h
    have hr := ih (a := { a with text := a.text ++ String.ofList [c] }) hf hs hb
    rw [String.append_assoc, ← String.ofList_append] at hr
    exact hc.append hr

end InField

/-! ## Blanks -/

theorem unescapeFrom_plain {s : List Char} (h : '&' ∉ s) (total place : Nat) (seen : List Char) :
    unescapeFrom total place seen none s = .ok (seen.reverse ++ s) := by
  induction s generalizing place seen with
  | nil => simp [unescapeFrom]
  | cons c s ih =>
    simp only [List.mem_cons, not_or] at h
    have hc : c ≠ '&' := fun hc => h.1 hc.symm
    rw [unescapeFrom]
    simp [hc, ih h.2]

/-- A text without ampersands has no entities. -/
theorem unescape_plain {s : List Char} (h : '&' ∉ s) : unescape s = .ok s :=
  unescapeFrom_plain h _ _ _

/-- Blanks and line breaks are text like any other. -/
theorem reads_blanks {s : List Char} (h : ∀ c ∈ s, c = ' ' ∨ c = '\n') (a : Assembly) :
    Reads s a (a.addText s) := by
  have hne : ∀ c ∈ s, c ≠ '<' ∧ c ≠ '&' := by
    intro c hc
    rcases h c hc with rfl | rfl <;> decide
  exact Reads.text (fun hm => (hne _ hm).1 rfl) (unescape_plain fun hm => (hne _ hm).2 rfl) a

theorem addText_of_field_eq_none {a : Assembly} (h : a.field = none) (s : List Char) :
    a.addText s = a := by
  simp [addText, h]

/-- Outside of fields a line is read as what stands between its blanks and its line break. -/
theorem Reads.line {s : List Char} {a b : Assembly} (h : Reads s a b) (ha : a.field = none)
    (hb : b.field = none) (indent : Nat) :
    Reads (List.replicate indent ' ' ++ s ++ ['\n']) a b := by
  have h1 := reads_blanks (s := List.replicate indent ' ')
    (fun c hc => .inl (List.eq_of_mem_replicate hc)) a
  have h2 := reads_blanks (s := ['\n']) (by simp) b
  rw [addText_of_field_eq_none ha] at h1
  rw [addText_of_field_eq_none hb] at h2
  exact (h1.append h).append h2

/-! ## Lines -/

/-- The lines, each with a line break behind it, take one assembly to another. -/
def ReadsLines (lines : List (List Char)) (a b : Assembly) : Prop :=
  Reads (lines.flatMap (· ++ ['\n'])) a b

theorem ReadsLines.nil (a : Assembly) : ReadsLines [] a a :=
  Reads.nil a

theorem ReadsLines.append {s t : List (List Char)} {a b c : Assembly} (h1 : ReadsLines s a b)
    (h2 : ReadsLines t b c) : ReadsLines (s ++ t) a c := by
  rw [ReadsLines, List.flatMap_append]
  exact Reads.append h1 h2

theorem ReadsLines.singleton {s : List Char} {a b : Assembly} (h : Reads s a b)
    (ha : a.field = none) (hb : b.field = none) (indent : Nat) :
    ReadsLines [List.replicate indent ' ' ++ s] a b := by
  rw [ReadsLines, List.flatMap_singleton]
  exact h.line ha hb indent

theorem ReadsLines.bare {s : List Char} {a b : Assembly} (h : Reads s a b) (ha : a.field = none)
    (hb : b.field = none) : ReadsLines [s] a b :=
  ReadsLines.singleton h ha hb 0

/-- An element whose tags stand on lines of their own is read through the lines between them. -/
theorem ReadsLines.element {name : String} {attributes : List Attribute} {lines : List (List Char)}
    {a b c d : Assembly} (h : IsTag name attributes)
    (hopen : a.openTag (writtenTag name attributes) = .ok b) (hs : ReadsLines lines b c)
    (hclose : c.closeTag name.toList = d)
    (hf : a.field = none ∧ b.field = none ∧ c.field = none ∧ d.field = none) (indent : Nat) :
    ReadsLines ([List.replicate indent ' ' ++ '<' :: (name.toList ++ writeAttributes attributes ++
        ['>'])] ++ lines ++ [List.replicate indent ' ' ++ '<' :: '/' :: (name.toList ++ ['>'])])
      a d := by
  obtain ⟨ha, hb, hc, hd⟩ := hf
  have h1 := reads_blanks (s := ['\n']) (by simp) b
  have h2 := reads_blanks (s := List.replicate indent ' ')
    (fun c hc => .inl (List.eq_of_mem_replicate hc)) c
  rw [addText_of_field_eq_none hb] at h1
  rw [addText_of_field_eq_none hc] at h2
  have hr := (Reads.element h hopen ((h1.append hs).append h2) hclose).line ha hd indent
  simpa [ReadsLines] using hr

/-! ## Elements that hold a text -/

/-- Where nothing is being skipped and no `byte` element is open, what closes is the open field. -/
theorem closeTag_of_field {a : Assembly} {field : Field} (hf : a.field = some field)
    (hs : a.skipDepth = 0) (hb : a.inByte = false) (name : List Char) :
    a.closeTag name = a.closeField field := by
  unfold closeTag
  simp [hf, hs, hb]

/-- A tag without attributes. -/
theorem isTag_plain {name : String} (h : IsName name.toList) : IsTag name [] :=
  ⟨h, by simp, by simp⟩

/-- An element that holds a text is read by closing its field with that text. -/
theorem reads_element {a : Assembly} {name : String} {field : Field} (hn : IsName name.toList)
    (ha : a.skipDepth = 0 ∧ a.inByte = false)
    (hopen : a.openTag (writtenTag name []) = .ok (a.beginField field)) (text : String) :
    Reads (Printing.element 0 name text) a
      ({ a with field := some field, text }.closeField field) := by
  have h1 : Reads (escapeText text.toList) (a.beginField field)
      { a with field := some field, text } := by
    have h := reads_escapeText (a := a.beginField field) rfl ha.1 ha.2 text.toList
    rw [String.ofList_toList] at h
    simpa [beginField] using h
  have h2 : { a with field := some field, text }.closeTag name.toList =
      { a with field := some field, text }.closeField field :=
    closeTag_of_field (a := { a with field := some field, text }) rfl ha.1 ha.2 name.toList
  have h := Reads.element (isTag_plain hn) hopen h1 h2
  simpa [Printing.element, writeAttributes] using h

theorem element_eq (indent : Nat) (name text : String) :
    Printing.element indent name text =
      List.replicate indent ' ' ++ Printing.element 0 name text := by
  simp [Printing.element]

/-! ## Between elements -/

/-- The root element is open: the catalog with its contexts so far. What has been collected for
elements that are closed by now may be left over. -/
def inRoot (r : Catalog) (a : Assembly) : Assembly :=
  { catalog := some r
    contexts := a.contexts
    messages := a.messages
    locations := a.locations
    sawTarget := a.sawTarget }

/-- A context is open, with its messages so far. -/
def inContext (r : Catalog) (a : Assembly) (c : Context) : Assembly :=
  { inRoot r a with context := some c }

/-- A message is open, with its locations so far. -/
def inMessage (r : Catalog) (a : Assembly) (c : Context) (m : Message) : Assembly :=
  { inContext r a c with message := some m }

section Opening
variable {r : Catalog} {a : Assembly} {c : Context} {m : Message} {name : String}
  {attributes : List Attribute}

theorem openTag_inMessage (h : IsTag name attributes) :
    (inMessage r a c m).openTag (writtenTag name attributes) =
      (inMessage r a c m).openInMessage m name (writtenTag name attributes) := by
  unfold openTag
  rw [h.name_eq]
  simp [inMessage, inContext, inRoot]

theorem openTag_inContext (h : IsTag name attributes) :
    (inContext r a c).openTag (writtenTag name attributes) =
      (inContext r a c).openInContext name (writtenTag name attributes) := by
  unfold openTag
  rw [h.name_eq]
  simp [inContext, inRoot]

/-! ## What stands in a message -/

/-- The attributes of a location. -/
def locationAttributes (l : Location) : List Attribute :=
  optionalAttribute "filename" l.filename ++ optionalAttribute "line" l.line

theorem isTag_location (l : Location) : IsTag "location" (locationAttributes l) := by
  refine IsTag.of_sublist ["filename", "line"] (by decide) (by decide) (by decide) ?_
  rw [locationAttributes, List.map_append]
  exact (keys_optionalAttribute _ _).append (keys_optionalAttribute _ _)

theorem readsLines_location (l : Location) :
    ReadsLines [Printing.location l] (inMessage r a c m)
      (inMessage r { a with locations := l :: a.locations } c m) := by
  have ht := isTag_location l
  have hopen : (inMessage r a c m).openTag (writtenTag "location" (locationAttributes l)) =
      .ok { inMessage r { a with locations := l :: a.locations } c m with skipDepth := 1 } := by
    rw [openTag_inMessage ht, openInMessage, if_pos rfl, ht.attributes_eq]
    simp [locationAttributes, bind, Except.bind, pure, Except.pure, inMessage, inContext, inRoot]
  have hclose : { inMessage r { a with locations := l :: a.locations } c m with
      skipDepth := 1 }.closeTag "location".toList =
        inMessage r { a with locations := l :: a.locations } c m := by
    unfold closeTag
    simp [inMessage, inContext, inRoot]
  have h := ReadsLines.singleton (Reads.selfClosing ht hopen hclose) rfl rfl 8
  simpa [Printing.location, optionalAttr_eq, locationAttributes] using h

/-- The elements that hold a text of the message, and what the message is when they close. -/
theorem messageElement {field : Field} (h : Field.ofMessageElement? name = some field)
    (text : String) :
    IsName name.toList ∧ name ≠ "location" ∧ name ≠ "translation" ∧
      { inMessage r a c m with field := some field, text }.closeField field =
        (inMessage r a c m).setInMessage field text ∧
      ((inMessage r a c m).setInMessage field text).field = none := by
  unfold Field.ofMessageElement? at h
  repeat' split at h
  all_goals cases h
  -- What is left are the names that are known, each with its field.
  all_goals
    subst_vars
    exact ⟨by decide, by decide, by decide, rfl, rfl⟩

/-- An element that holds a text of the message is read. -/
theorem readsLines_messageText (name : String) {field : Field}
    (h : Field.ofMessageElement? name = some field) (text : String) :
    ReadsLines [Printing.element 8 name text] (inMessage r a c m)
      ((inMessage r a c m).setInMessage field text) := by
  obtain ⟨hn, hl, ht, hclose, hnone⟩ := messageElement h text
  have hopen : (inMessage r a c m).openTag (writtenTag name []) =
      .ok ((inMessage r a c m).beginField field) := by
    rw [openTag_inMessage (isTag_plain hn), openInMessage, if_neg hl, if_neg ht, h]
    rfl
  have hr := reads_element hn ⟨rfl, rfl⟩ hopen text
  rw [hclose] at hr
  rw [element_eq]
  exact ReadsLines.singleton hr rfl hnone 8

/-- An element that holds a text of the message and may be absent. The message is `put none` as long
as it is. -/
theorem readsLines_messageText? (name : String) {field : Field}
    (h : Field.ofMessageElement? name = some field) (put : Option String → Message)
    (hput : ∀ text, (inMessage r a c (put none)).setInMessage field text =
      inMessage r a c (put (some text))) (text? : Option String) :
    ReadsLines (Printing.element? 8 name text?) (inMessage r a c (put none))
      (inMessage r a c (put text?)) := by
  cases text? with
  | none => exact ReadsLines.nil _
  | some text =>
    rw [← hput]
    exact readsLines_messageText name h text

/-! ## What stands in a context -/

/-- An element that holds a text of the context is read. -/
theorem readsLines_contextText {field : Field} (h : name = "name" ∧ field = .contextName ∨
    name = "comment" ∧ field = .contextComment) (text : String) :
    ReadsLines [Printing.element 4 name text] (inContext r a c)
      ((inContext r a c).setInContext field text) := by
  have hn : IsName name.toList := by
    rcases h with ⟨rfl, -⟩ | ⟨rfl, -⟩ <;> decide
  have hopen : (inContext r a c).openTag (writtenTag name []) =
      .ok ((inContext r a c).beginField field) := by
    rw [openTag_inContext (isTag_plain hn)]
    rcases h with ⟨rfl, rfl⟩ | ⟨rfl, rfl⟩ <;> rfl
  have hr := reads_element hn ⟨rfl, rfl⟩ hopen text
  rw [element_eq]
  rcases h with ⟨rfl, rfl⟩ | ⟨rfl, rfl⟩
  · exact ReadsLines.singleton hr rfl rfl 4
  · exact ReadsLines.singleton hr rfl rfl 4

theorem readsLines_contextComment? (comment? : Option String) :
    ReadsLines (Printing.element? 4 "comment" comment?)
      (inContext r a { c with comment := none })
      (inContext r a { c with comment := comment? }) := by
  cases comment? with
  | none => exact ReadsLines.nil _
  | some comment => exact readsLines_contextText (.inr ⟨rfl, rfl⟩) comment

end Opening

end Assembly

end MessageCatalog
