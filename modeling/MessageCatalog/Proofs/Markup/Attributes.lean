import MessageCatalog.Catalog.Printing
import MessageCatalog.Proofs.Markup.Pieces

/-!
# Tags with attributes

A tag that is written with attributes is cut out as one piece, whatever text the values hold, and
its attributes are read back: a value is escaped, so no quote of its own ends it. Names and keys are
words of letters and digits, and no key occurs twice.
-/

namespace MessageCatalog.Markup

/-! ## Names -/

/-- A word of letters and digits, which has no meaning in markup but itself. -/
def IsName (s : List Char) : Prop :=
  s ≠ [] ∧ ∀ c ∈ s, c.isAlphanum = true

-- The letters of the word are tried, not every character there is.
instance (s : List Char) : Decidable (IsName s) :=
  @instDecidableAnd _ _ _ (List.decidableBAll (fun c : Char => c.isAlphanum = true) s)

theorem isAlphanum_ne {c d : Char} (hc : c.isAlphanum = true) (hd : d.isAlphanum = false) :
    c ≠ d := by
  rintro rfl
  rw [hc] at hd
  cases hd

theorem isSpace_eq_false {c : Char} (h : c.isAlphanum = true) : isSpace c = false := by
  simp [isSpace, isAlphanum_ne h (d := ' ') rfl, isAlphanum_ne h (d := '\t') rfl,
    isAlphanum_ne h (d := '\n') rfl, isAlphanum_ne h (d := '\r') rfl]

theorem quoteAfter?_alphanum {s : List Char} (h : ∀ c ∈ s, c.isAlphanum = true) :
    quoteAfter? none s = some none :=
  quoteAfter?_plain fun c hc =>
    ⟨isAlphanum_ne (h c hc) rfl, isAlphanum_ne (h c hc) rfl, isAlphanum_ne (h c hc) rfl⟩

/-! ## Writing attributes -/

/-- The attributes of a tag as they are written, each with a blank in front. -/
def writeAttributes (attributes : List Attribute) : List Char :=
  attributes.flatMap fun a => Printing.attr a.key a.value

/-- An attribute that may be absent. -/
def optionalAttribute (key : String) (value : Option String) : List Attribute :=
  value.toList.map fun value => ⟨key, value⟩

theorem optionalAttr_eq (key : String) (value : Option String) :
    Printing.optionalAttr key value = writeAttributes (optionalAttribute key value) := by
  cases value <;> simp [Printing.optionalAttr, writeAttributes, optionalAttribute]

@[simp] theorem writeAttributes_append (s t : List Attribute) :
    writeAttributes (s ++ t) = writeAttributes s ++ writeAttributes t :=
  List.flatMap_append

@[simp] theorem attribute?_nil (key : String) : attribute? [] key = none := rfl

@[simp] theorem attribute?_append (s t : List Attribute) (key : String) :
    attribute? (s ++ t) key = (attribute? s key).or (attribute? t key) := by
  simp only [attribute?, List.find?_append]
  cases s.find? (·.key == key) <;> rfl

@[simp] theorem attribute?_optionalAttribute (key wanted : String) (value : Option String) :
    attribute? (optionalAttribute key value) wanted = if key = wanted then value else none := by
  cases value with
  | none => simp [optionalAttribute]
  | some value => by_cases h : key = wanted <;> simp [optionalAttribute, attribute?, h]

theorem quoteAfter?_attr {key : String} (h : ∀ c ∈ key.toList, c.isAlphanum = true)
    (value : String) : quoteAfter? none (Printing.attr key value) = some none := by
  have hv : '\x22' ∉ escape value.toList := not_mem_escape (by simp) _
  have hb : quoteAfter? none [' '] = some none := rfl
  have he : quoteAfter? none "=\x22".toList = some (some '\x22') := rfl
  have hq : quoteAfter? (some '\x22') "\x22".toList = some none := rfl
  rw [Printing.attr, ← List.singleton_append]
  simp only [quoteAfter?_append, hb, quoteAfter?_alphanum h, he, quoteAfter?_quoted hv, hq,
    Option.bind_some]

/-- No quote is open behind the attributes of a tag. -/
theorem quoteAfter?_writeAttributes {attributes : List Attribute}
    (h : ∀ a ∈ attributes, IsName a.key.toList) :
    quoteAfter? none (writeAttributes attributes) = some none := by
  induction attributes with
  | nil => rfl
  | cons a rest ih =>
    rw [writeAttributes, List.flatMap_cons, quoteAfter?_append,
      quoteAfter?_attr (h a List.mem_cons_self).2]
    exact ih fun b hb => h b (List.mem_cons_of_mem _ hb)

/-- A tag with attributes is whole, with a slash at its end or without one. -/
theorem isWhole_tag_attributes {name slash : List Char} (hn : IsName name)
    {attributes : List Attribute} (h : ∀ a ∈ attributes, IsName a.key.toList)
    (hs : quoteAfter? none slash = some none) :
    (Piece.tag (name ++ writeAttributes attributes ++ slash)).IsWhole := by
  obtain ⟨hne, ha⟩ := hn
  have hq : quoteAfter? none (name ++ writeAttributes attributes ++ slash) = some none := by
    simp only [quoteAfter?_append, quoteAfter?_alphanum ha, quoteAfter?_writeAttributes h, hs,
      Option.bind_some]
  cases name with
  | nil => exact absurd rfl hne
  | cons c name =>
    have hc := ha c List.mem_cons_self
    exact isWhole_tag (isAlphanum_ne hc rfl) (isAlphanum_ne hc rfl) hq

/-- A closing tag is whole. -/
theorem isWhole_closing {name : List Char} (hn : IsName name) :
    (Piece.tag ('/' :: name)).IsWhole := by
  refine isWhole_tag (by decide) (by decide) ?_
  rw [← List.singleton_append, quoteAfter?_append, quoteAfter?_plain (by simp)]
  exact quoteAfter?_alphanum hn.2

/-! ## Reading attributes -/

namespace AttributeReading

variable (keys : List (List Char × Nat)) (attributes : List Attribute)

/-- A key is collected up to a character that is no letter and no digit. -/
theorem run_key {s : List Char} (h : ∀ c ∈ s, c.isAlphanum = true) (start place : Nat)
    (held t : List Char) : ∃ place',
    run ⟨.key start held, keys, attributes⟩ place (s ++ t) =
      run ⟨.key start (s.reverse ++ held), keys, attributes⟩ place' t := by
  induction s generalizing place held with
  | nil => exact ⟨place, rfl⟩
  | cons c s ih =>
    have hc := h c List.mem_cons_self
    obtain ⟨place', e⟩ := ih (fun d hd => h d (List.mem_cons_of_mem _ hd)) (place + c.utf8Size)
      (c :: held)
    refine ⟨place', ?_⟩
    rw [List.cons_append, run]
    simp only [step, isAlphanum_ne hc (d := '=') rfl, isSpace_eq_false hc, if_false,
      Bool.false_eq_true]
    rw [e]
    simp

/-- A value is collected up to its quote. -/
theorem run_value {quote : Char} {s : List Char} (h : quote ∉ s) (key : List Char) (place : Nat)
    (held t : List Char) : ∃ place',
    run ⟨.value key quote held, keys, attributes⟩ place (s ++ t) =
      run ⟨.value key quote (s.reverse ++ held), keys, attributes⟩ place' t := by
  induction s generalizing place held with
  | nil => exact ⟨place, rfl⟩
  | cons c s ih =>
    simp only [List.mem_cons, not_or] at h
    have hc : c ≠ quote := fun hc => h.1 hc.symm
    obtain ⟨place', e⟩ := ih h.2 (place + c.utf8Size) (c :: held)
    refine ⟨place', ?_⟩
    rw [List.cons_append, run]
    simp only [step, if_neg hc]
    rw [e]
    simp

/-- A written attribute is read, if its key is new. -/
theorem run_attr {key : String} (hk : IsName key.toList) (value : String)
    (hnew : keys.lookup key.toList = none) (place : Nat) (t : List Char) : ∃ start place',
    run ⟨.between, keys, attributes⟩ place (Printing.attr key value ++ t) =
      run ⟨.between, (key.toList, start) :: keys, ⟨key, value⟩ :: attributes⟩ place' t := by
  obtain ⟨hne, ha⟩ := hk
  have hv : '\x22' ∉ escape value.toList := not_mem_escape (by simp) _
  cases hkey : key.toList with
  | nil => exact absurd hkey hne
  | cons c s =>
    rw [hkey] at ha hnew
    have hc := ha c List.mem_cons_self
    have hs := fun d hd => ha d (List.mem_cons_of_mem _ hd)
    -- The blank in front of the key, and its first character.
    have e1 : run ⟨.between, keys, attributes⟩ place (Printing.attr key value ++ t) =
        run ⟨.key (place + 1) [c], keys, attributes⟩ (place + 1 + c.utf8Size)
          (s ++ ('=' :: '\x22' :: (escape value.toList ++ '\x22' :: t))) := by
      simp only [Printing.attr, hkey, List.cons_append, List.append_assoc, run, step,
        isSpace_eq_false hc, Bool.false_eq_true, if_false]
      rfl
    obtain ⟨p2, e2⟩ := run_key keys attributes hs (place + 1) (place + 1 + c.utf8Size) [c]
      ('=' :: '\x22' :: (escape value.toList ++ '\x22' :: t))
    -- The equals sign and the quote.
    have e3 : run ⟨.key (place + 1) (s.reverse ++ [c]), keys, attributes⟩ p2
          ('=' :: '\x22' :: (escape value.toList ++ '\x22' :: t)) =
        run ⟨.value (c :: s) '\x22' [], (c :: s, place + 1) :: keys, attributes⟩ (p2 + 1 + 1)
          (escape value.toList ++ '\x22' :: t) := by
      simp [run, step, closeKey, hnew, isSpace]
      rfl
    obtain ⟨p4, e4⟩ := run_value ((c :: s, place + 1) :: keys) attributes hv (c :: s)
      (p2 + 1 + 1) [] ('\x22' :: t)
    refine ⟨place + 1, p4 + 1, ?_⟩
    rw [e1, e2, e3, e4, run]
    simp only [step, if_true, List.append_nil, List.reverse_reverse, closeValue, unescape_escape]
    rw [← hkey, String.ofList_toList, String.ofList_toList]
    rfl

/-- Written attributes are read in order. -/
theorem run_writeAttributes {written : List Attribute} (hn : ∀ a ∈ written, IsName a.key.toList)
    (hd : (written.map (·.key)).Nodup) (hnew : ∀ a ∈ written, keys.lookup a.key.toList = none)
    (place : Nat) :
    run ⟨.between, keys, attributes⟩ place (writeAttributes written) =
      .ok (attributes.reverse ++ written) := by
  induction written generalizing keys attributes place with
  | nil => simp [writeAttributes, run, finish]
  | cons a rest ih =>
    simp only [List.map_cons, List.nodup_cons, List.mem_map, not_exists, not_and] at hd
    obtain ⟨start, place', e⟩ := run_attr keys attributes (hn a List.mem_cons_self)
      a.value (hnew a List.mem_cons_self) place (writeAttributes rest)
    rw [writeAttributes, List.flatMap_cons, ← writeAttributes, e,
      ih _ _ (fun b hb => hn b (List.mem_cons_of_mem _ hb)) hd.2]
    · simp
    · intro b hb
      have hne : b.key.toList ≠ a.key.toList := fun h => hd.1 b hb (String.toList_inj.1 h)
      simp [List.lookup_cons, beq_false_of_ne hne, hnew b (List.mem_cons_of_mem _ hb)]

end AttributeReading

namespace Tag

theorem takeWhile_name {name : List Char} (hn : IsName name) (attributes : List Attribute) :
    (name ++ writeAttributes attributes).takeWhile (!isSpace ·) = name ∧
      (name ++ writeAttributes attributes).dropWhile (!isSpace ·) = writeAttributes attributes := by
  have ha : ∀ c ∈ name, (!isSpace c) = true := fun c hc => by
    rw [isSpace_eq_false (hn.2 c hc), Bool.not_false]
  rw [List.takeWhile_append_of_pos ha, List.dropWhile_append_of_pos ha]
  cases attributes <;> simp [writeAttributes, Printing.attr, isSpace]

/-- The name of a written tag is read back. -/
theorem name_write {name : List Char} (hn : IsName name) (attributes : List Attribute) :
    Tag.name ⟨name ++ writeAttributes attributes⟩ = name :=
  (takeWhile_name hn attributes).1

/-- The attributes of a written tag are read back. -/
theorem attributes_write {name : List Char} (hn : IsName name) {written : List Attribute}
    (hk : ∀ a ∈ written, IsName a.key.toList) (hd : (written.map (·.key)).Nodup) :
    Tag.attributes ⟨name ++ writeAttributes written⟩ = .ok written := by
  rw [Tag.attributes, (takeWhile_name hn written).2]
  exact AttributeReading.run_writeAttributes _ _ hk hd (fun _ _ => rfl) _

end Tag

end MessageCatalog.Markup
