import Mathlib.Data.List.DropRight
import MessageCatalog.Data.Json.Printing
import MessageCatalog.Data.Json.Reading
import MessageCatalog.Proofs.Lists

/-!
# Reading written JSON back

What is written as JSON is read back, but for the difference between a tagged value and a record
with one field, and between a damaged text and nothing (`Value.reread`). A value is read back where
it stands, with anything behind it (`IsReadBack`), and lists and records are when what they hold is.
-/

namespace MessageCatalog.Data

namespace Value

mutual

/-- What a value is read back as. -/
def reread : Value → Value
  | .damaged => .null
  | .list items => .list (rereadItems items)
  | .record fields => .record (rereadFields fields)
  | .tagged tag value => .record [(tag, reread value)]
  | value => value

def rereadItems : List Value → List Value
  | [] => []
  | item :: items => reread item :: rereadItems items

def rereadFields : List Field → List Field
  | [] => []
  | (name, value) :: fields => (name, reread value) :: rereadFields fields

end

theorem rereadItems_eq (items : List Value) : rereadItems items = items.map reread := by
  induction items with
  | nil => rfl
  | cons item items ih => rw [rereadItems, ih, List.map_cons]

theorem rereadFields_eq (fields : List Field) :
    rereadFields fields = fields.map fun f => (f.1, f.2.reread) := by
  induction fields with
  | nil => rfl
  | cons f fields ih =>
    obtain ⟨name, value⟩ := f
    rw [rereadFields, ih, List.map_cons]

@[simp] theorem reread_text (s : String) : (text s).reread = .text s := rfl

@[simp] theorem reread_bool (b : Bool) : (bool b).reread = .bool b := rfl

@[simp] theorem reread_tagged (tag : String) (v : Value) :
    (tagged tag v).reread = .record [(tag, v.reread)] := rfl

@[simp] theorem reread_list (items : List Value) :
    (list items).reread = .list (items.map reread) :=
  congrArg list (rereadItems_eq items)

@[simp] theorem reread_record (fields : List Field) :
    (record fields).reread = .record (fields.map fun f => (f.1, f.2.reread)) :=
  congrArg record (rereadFields_eq fields)

end Value

namespace Json

/-! ## Blanks -/

theorem skipBlanks_append {b : List Char} (h : ∀ c ∈ b, isBlank c = true) (s : List Char) :
    skipBlanks (b ++ s) = skipBlanks s :=
  List.dropWhile_append_of_pos h

theorem skipBlanks_cons {c : Char} (h : isBlank c = false) (s : List Char) :
    skipBlanks (c :: s) = c :: s :=
  List.dropWhile_cons_of_neg (by simp [h])

theorem skipBlanks_skipBlanks (s : List Char) : skipBlanks (skipBlanks s) = skipBlanks s :=
  List.dropWhile_idempotent ..

theorem readValue?_congr {s t : List Char} (h : skipBlanks s = skipBlanks t) (fuel : Nat) :
    readValue? fuel s = readValue? fuel t := by
  cases fuel with
  | zero => rfl
  | succ fuel => rw [readValue?, readValue?, h]

theorem readItems?_congr {s t : List Char} (h : skipBlanks s = skipBlanks t) (fuel : Nat) :
    readItems? fuel s = readItems? fuel t := by
  cases fuel with
  | zero => rfl
  | succ fuel => rw [readItems?, readItems?, readValue?_congr h]

theorem readFields?_congr {s t : List Char} (h : skipBlanks s = skipBlanks t) (fuel : Nat) :
    readFields? fuel s = readFields? fuel t := by
  cases fuel with
  | zero => rfl
  | succ fuel => rw [readFields?, readFields?, h]

/-! ## Texts -/

/-- The four digits of the number of a control character are read as the number. -/
theorem unit?_hexDigit : ∀ n < 0x20,
    unit? (Text.hexDigit (n / 16 / 16 / 16 % 16)) (Text.hexDigit (n / 16 / 16 % 16))
      (Text.hexDigit (n / 16 % 16)) (Text.hexDigit (n % 16)) = some n := by
  decide

/-- The number of a control character is read as the character. -/
theorem readText?_unit (seen s : List Char) {c : Char} (h : c.toNat < 0x20) :
    readText? { seen } ('\\' :: 'u' :: Text.hexPadded 4 c.toNat ++ s) =
      readText? { seen := c :: seen } s := by
  have hunit : TextSoFar.pushUnit { seen } c.toNat = { seen := c :: seen } := by
    rw [TextSoFar.pushUnit, if_neg (by omega), if_neg (by omega), Char.ofNat_toNat]
    rfl
  change readText? { seen } ('\\' :: 'u' :: _ :: _ :: _ :: _ :: s) = _
  rw [readText?, unit?_hexDigit c.toNat h]
  exact congrArg (readText? · s) hunit

/-- An escaped character is read as itself. -/
theorem readText?_escapeChar (seen : List Char) (c : Char) (s : List Char) :
    readText? { seen } (escapeChar c ++ s) = readText? { seen := c :: seen } s := by
  unfold escapeChar
  split
  · next h => subst h; rfl
  split
  · next h => subst h; rfl
  split
  · next h => subst h; rfl
  split
  · next h => subst h; rfl
  split
  · next h => subst h; rfl
  split
  · next h => subst h; rfl
  split
  · next h => subst h; rfl
  split
  · next h => exact readText?_unit seen s h
  · next hquote hslash _ _ _ _ _ hplain =>
    -- The character stands for itself, as it begins no escape and closes no text.
    rw [List.singleton_append, readText?.eq_def]
    split
    · next heq => cases heq
    · next heq =>
      cases heq
      exact absurd rfl hquote
    · next heq =>
      cases heq
      exact absurd rfl hslash
    · next heq =>
      cases heq
      exact absurd rfl hslash
    · next heq =>
      cases heq
      rw [if_neg (not_or.2 ⟨hplain, hslash⟩)]
      rfl

theorem readText?_flatMap (seen text rest : List Char) :
    readText? { seen } (text.flatMap escapeChar ++ '\x22' :: rest) =
      some (.text (String.ofList (seen.reverse ++ text)), rest) := by
  induction text generalizing seen with
  | nil =>
    rw [List.append_nil]
    rfl
  | cons c text ih =>
    rw [List.flatMap_cons, List.append_assoc, readText?_escapeChar, ih]
    simp

theorem readText?_quoted (text : String) (rest : List Char) :
    readText? {} (text.toList.flatMap escapeChar ++ '\x22' :: rest) = some (.text text, rest) := by
  rw [readText?_flatMap [] text.toList rest]
  simp

/-! ## What is written

These hold by computation. They are stated because to unfold the function at a value compares the
value with every kind that stands in front of its own.
-/

theorem print_text (l : Layout) (depth : Nat) (s : String) : print l depth (.text s) = quoted s :=
  rfl

theorem print_list_cons (l : Layout) (depth : Nat) (item : Value) (items : List Value) :
    print l depth (.list (item :: items)) =
      '[' :: (l.newline (depth + 1) ++ print l (depth + 1) item ++
        printItems l (depth + 1) items ++ l.newline depth ++ [']']) := rfl

theorem print_record_cons (l : Layout) (depth : Nat) (name : String) (value : Value)
    (fields : List Field) :
    print l depth (.record ((name, value) :: fields)) =
      '{' :: (l.newline (depth + 1) ++ quoted name ++ l.colon ++ print l (depth + 1) value ++
        printFields l (depth + 1) fields ++ l.newline depth ++ ['}']) := rfl

theorem printItems_nil (l : Layout) (depth : Nat) : printItems l depth [] = [] := rfl

theorem printItems_cons (l : Layout) (depth : Nat) (item : Value) (items : List Value) :
    printItems l depth (item :: items) =
      ',' :: (l.newline depth ++ print l depth item ++ printItems l depth items) := rfl

theorem printFields_nil (l : Layout) (depth : Nat) : printFields l depth [] = [] := rfl

theorem printFields_cons (l : Layout) (depth : Nat) (name : String) (value : Value)
    (fields : List Field) :
    printFields l depth ((name, value) :: fields) =
      ',' :: (l.newline depth ++ quoted name ++ l.colon ++ print l depth value ++
        printFields l depth fields) := rfl

/-- A tagged value is written as a record with one field. -/
theorem print_tagged (l : Layout) (depth : Nat) (tag : String) (v : Value) :
    print l depth (.tagged tag v) = print l depth (.record [(tag, v)]) := by
  have htagged : print l depth (.tagged tag v) =
      '{' :: (l.newline (depth + 1) ++ quoted tag ++ l.colon ++ print l (depth + 1) v ++
        l.newline depth ++ ['}']) := rfl
  rw [htagged, print_record_cons, printFields_nil, List.append_nil]

/-! ## Values -/

/-- The layout puts nothing but blanks between the parts of a value. -/
structure Layout.IsBlank (l : Layout) : Prop where
  newline (depth : Nat) : ∀ c ∈ l.newline depth, isBlank c = true
  colon : ∃ b, l.colon = ':' :: b ∧ ∀ c ∈ b, isBlank c = true

theorem prettyLayout_isBlank : prettyLayout.IsBlank where
  newline depth c hc := by
    rcases List.mem_cons.1 hc with rfl | hc
    · rfl
    · rw [List.eq_of_mem_replicate hc]
      rfl
  colon := ⟨[' '], rfl, List.forall_mem_singleton.2 rfl⟩

/-- The value is read back wherever it is written, with anything behind it. -/
def IsReadBack (l : Layout) (v : Value) : Prop :=
  ∀ depth fuel rest, (print l depth v).length ≤ fuel →
    readValue? fuel (print l depth v ++ rest) = some (v.reread, rest)

variable {l : Layout}

theorem isReadBack_text (l : Layout) (s : String) : IsReadBack l (.text s) := by
  intro depth fuel rest hf
  cases fuel with
  | zero => cases hf
  | succ fuel =>
    rw [print_text, quoted, List.cons_append, List.append_assoc, readValue?,
      skipBlanks_cons (by decide)]
    exact readText?_quoted s rest

theorem isReadBack_bool (l : Layout) (b : Bool) : IsReadBack l (.bool b) := by
  intro depth fuel rest hf
  cases fuel with
  | zero => cases b <;> cases hf
  | succ fuel => cases b <;> rfl

/-- No item begins with a closing bracket. -/
theorem skipBlanks_ne_of_readItems? {fuel : Nat} {s t : List Char} {x : List Value × List Char}
    (h : readItems? fuel s = some x) : skipBlanks s ≠ ']' :: t := by
  intro hs
  match fuel with
  | 0 => cases h
  | 1 => cases h
  | fuel + 2 =>
    rw [readItems?, readValue?, hs] at h
    cases h

/-- A list is read from its first item on. -/
theorem readValue?_list {fuel : Nat} {s rest : List Char} {items : List Value}
    (h : readItems? fuel s = some (items, rest)) :
    readValue? (fuel + 1) ('[' :: s) = some (.list items, rest) := by
  rw [readValue?, skipBlanks_cons (by decide)]
  dsimp only
  -- A bracket begins no word and no text.
  iterate 4 rw [if_neg (by decide)]
  rw [if_pos rfl]
  split
  · next heq => exact absurd heq (skipBlanks_ne_of_readItems? h)
  · rw [readItems?_congr (skipBlanks_skipBlanks s), h]
    rfl

section Items
variable {items : List Value}

/-- The items of a list are read up to its closing bracket. -/
theorem readItems?_print (hl : l.IsBlank) {item : Value} (hitem : IsReadBack l item)
    (h : ∀ v ∈ items, IsReadBack l v) (depth : Nat) {fuel : Nat} {b : List Char}
    (hb : ∀ c ∈ b, isBlank c = true) (rest : List Char)
    (hf : (print l depth item).length + (printItems l depth items).length < fuel) :
    readItems? fuel (print l depth item ++ (printItems l depth items ++ (b ++ ']' :: rest))) =
      some (item.reread :: items.map Value.reread, rest) := by
  induction items generalizing item fuel with
  | nil =>
    cases fuel with
    | zero => cases hf
    | succ fuel =>
      rw [readItems?, hitem depth fuel _ (by omega)]
      dsimp only
      rw [printItems_nil, List.nil_append, skipBlanks_append hb, skipBlanks_cons (by decide)]
      rfl
  | cons next items ih =>
    cases fuel with
    | zero => cases hf
    | succ fuel =>
      rw [printItems_cons] at hf
      simp only [List.length_cons, List.length_append] at hf
      rw [readItems?, hitem depth fuel _ (by omega)]
      dsimp only
      rw [printItems_cons, List.cons_append, skipBlanks_cons (by decide)]
      simp only [List.append_assoc]
      -- The blanks behind the comma are skipped with the next item, which uses less fuel.
      rw [readItems?_congr (skipBlanks_append (hl.newline depth) _),
        ih (h next List.mem_cons_self) (fun v hv => h v (List.mem_cons_of_mem _ hv)) (by omega)]
      rfl

theorem isReadBack_list (hl : l.IsBlank) (h : ∀ v ∈ items, IsReadBack l v) :
    IsReadBack l (.list items) := by
  intro depth fuel rest hf
  cases fuel with
  | zero => cases items <;> cases hf
  | succ fuel =>
    cases items with
    | nil => rfl
    | cons item items =>
      rw [print_list_cons] at hf ⊢
      simp only [List.length_cons, List.length_append, List.length_nil] at hf
      simp only [List.cons_append, List.append_assoc, List.nil_append, Value.reread_list]
      refine readValue?_list ?_
      rw [readItems?_congr (skipBlanks_append (hl.newline (depth + 1)) _)]
      have hfuel : (print l (depth + 1) item).length + (printItems l (depth + 1) items).length <
          fuel := by omega
      exact readItems?_print hl (h item List.mem_cons_self)
        (fun v hv => h v (List.mem_cons_of_mem _ hv)) (depth + 1) (hl.newline depth) rest hfuel

end Items

section Fields
variable {value : Value} {fields : List Field}

/-- No field begins with a closing brace. -/
theorem skipBlanks_ne_of_readFields? {fuel : Nat} {s t : List Char}
    {x : List (Value × Value) × List Char} (h : readFields? fuel s = some x) :
    skipBlanks s ≠ '}' :: t := by
  intro hs
  cases fuel with
  | zero => cases h
  | succ fuel =>
    rw [readFields?, hs] at h
    cases h

/-- Fields whose names are texts make up a record. -/
theorem recordOf_map (fields : List Field) :
    recordOf (fields.map fun f => (.text f.1, f.2)) = .record fields := by
  rw [recordOf, mapM_map_eq_some (k := id), List.map_id]
  exact fun _ _ => rfl

/-- A field is read, and then what follows it. -/
theorem readFields?_field (hl : l.IsBlank) (name : String) (fuel : Nat) (s : List Char) :
    readFields? (fuel + 1) (quoted name ++ (l.colon ++ s)) =
      match readValue? fuel s with
      | none => none
      | some (value, s) =>
        match skipBlanks s with
        | ',' :: s => (readFields? fuel s).map fun (fields, s) => ((.text name, value) :: fields, s)
        | '}' :: s => some ([(.text name, value)], s)
        | _ => none := by
  obtain ⟨blanks, hcolon, hblanks⟩ := hl.colon
  have hname : skipBlanks (quoted name ++ (l.colon ++ s)) =
      '\x22' :: (name.toList.flatMap escapeChar ++ '\x22' :: (l.colon ++ s)) := by
    rw [quoted, List.cons_append, skipBlanks_cons (by decide), List.append_assoc]
    rfl
  rw [readFields?, hname]
  simp only [readText?_quoted]
  rw [hcolon, List.cons_append, skipBlanks_cons (by decide),
    ← readValue?_congr (skipBlanks_append hblanks s)]
  rfl

/-- The fields of a record are read up to its closing brace. -/
theorem readFields?_print (hl : l.IsBlank) (name : String) (hvalue : IsReadBack l value)
    (h : ∀ f ∈ fields, IsReadBack l f.2) (depth : Nat) {fuel : Nat} {b : List Char}
    (hb : ∀ c ∈ b, isBlank c = true) (rest : List Char)
    (hf : (print l depth value).length + (printFields l depth fields).length < fuel) :
    readFields? fuel (quoted name ++ (l.colon ++ (print l depth value ++
      (printFields l depth fields ++ (b ++ '}' :: rest))))) =
        some ((.text name, value.reread) :: fields.map fun f => (.text f.1, f.2.reread), rest) := by
  induction fields generalizing name value fuel with
  | nil =>
    cases fuel with
    | zero => cases hf
    | succ fuel =>
      rw [readFields?_field hl, hvalue depth fuel _ (by omega)]
      dsimp only
      rw [printFields_nil, List.nil_append, skipBlanks_append hb, skipBlanks_cons (by decide)]
      rfl
  | cons next fields ih =>
    obtain ⟨name', value'⟩ := next
    have hvalue' : IsReadBack l value' := h (name', value') List.mem_cons_self
    cases fuel with
    | zero => cases hf
    | succ fuel =>
      rw [printFields_cons] at hf
      simp only [List.length_cons, List.length_append] at hf
      rw [readFields?_field hl, hvalue depth fuel _ (by omega)]
      dsimp only
      rw [printFields_cons, List.cons_append, skipBlanks_cons (by decide)]
      simp only [List.append_assoc]
      rw [readFields?_congr (skipBlanks_append (hl.newline depth) _),
        ih name' hvalue' (fun f hf => h f (List.mem_cons_of_mem _ hf)) (by omega)]
      rfl

/-- A record is read from its first field on. -/
theorem readValue?_record {fuel : Nat} {s rest : List Char} {fields : List Field}
    (h : readFields? fuel s = some (fields.map fun f => (.text f.1, f.2), rest)) :
    readValue? (fuel + 1) ('{' :: s) = some (.record fields, rest) := by
  rw [readValue?, skipBlanks_cons (by decide)]
  dsimp only
  -- A brace begins no word, no text and no list.
  iterate 5 rw [if_neg (by decide)]
  rw [if_pos rfl]
  split
  · next heq => exact absurd heq (skipBlanks_ne_of_readFields? h)
  · rw [readFields?_congr (skipBlanks_skipBlanks s), h]
    exact congrArg (fun v => some (v, rest)) (recordOf_map fields)

theorem isReadBack_record (hl : l.IsBlank) (h : ∀ f ∈ fields, IsReadBack l f.2) :
    IsReadBack l (.record fields) := by
  intro depth fuel rest hf
  cases fuel with
  | zero => cases fields <;> cases hf
  | succ fuel =>
    cases fields with
    | nil => rfl
    | cons field fields =>
      obtain ⟨name, value⟩ := field
      rw [print_record_cons] at hf ⊢
      simp only [List.length_cons, List.length_append, List.length_nil] at hf
      simp only [List.cons_append, List.append_assoc, List.nil_append, Value.reread_record]
      refine readValue?_record ?_
      rw [readFields?_congr (skipBlanks_append (hl.newline (depth + 1)) _)]
      have hfuel : (print l (depth + 1) value).length +
          (printFields l (depth + 1) fields).length < fuel := by omega
      have hread := readFields?_print hl name (h _ List.mem_cons_self)
        (fun f hf => h f (List.mem_cons_of_mem _ hf)) (depth + 1) (hl.newline depth) rest hfuel
      rw [List.map_map]
      exact hread

theorem isReadBack_tagged (hl : l.IsBlank) (tag : String) (h : IsReadBack l value) :
    IsReadBack l (.tagged tag value) := by
  intro depth fuel rest hf
  have hrecord : IsReadBack l (.record [(tag, value)]) := isReadBack_record hl (by simpa using h)
  rw [print_tagged] at hf ⊢
  exact hrecord depth fuel rest hf

end Fields

/-- What is written in a layout is read back. -/
theorem readChars?_print {v : Value} (h : IsReadBack l v) (depth : Nat) :
    readChars? (print l depth v) = some v.reread := by
  have hread := h depth (2 * (print l depth v).length + 2) [] (by omega)
  rw [List.append_nil] at hread
  rw [readChars?, hread]
  rfl

theorem read?_pretty {v : Value} (h : IsReadBack prettyLayout v) :
    read? (pretty v) = some v.reread := by
  rw [read?, pretty, String.toList_ofList, readChars?_print h]

end Json

end MessageCatalog.Data
