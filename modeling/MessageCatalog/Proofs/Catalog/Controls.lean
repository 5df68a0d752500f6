import MessageCatalog.Catalog.Parsing
import MessageCatalog.Catalog.Printing
import MessageCatalog.Proofs.Numeral

/-!
# Control characters in catalog files

The text of an element is written without control characters. The value of an attribute is written
with those that it has, so the control characters of a file are those of its attributes
(`controls_printChars`), and a file has none exactly when no attribute has any.
-/

namespace MessageCatalog

open Markup

/-- A control character other than the tab and the two line breaks. -/
def IsControl (c : Char) : Prop :=
  (c.toNat ≤ 0x1F ∨ 0x7F ≤ c.toNat ∧ c.toNat ≤ 0x9F) ∧ c ≠ '\t' ∧ c ≠ '\n' ∧ c ≠ '\r'

instance : DecidablePred IsControl :=
  fun _ => inferInstanceAs (Decidable (_ ∧ _))

theorem isBareControl_iff {c : Char} : isBareControl c = true ↔ IsControl c := by
  have hmark : (!(c == '\n' || c == '\r' || c == '\t')) = true ↔
      c ≠ '\t' ∧ c ≠ '\n' ∧ c ≠ '\r' := by
    simp only [Bool.not_eq_true', Bool.or_eq_false_iff, beq_eq_false_iff_ne]
    tauto
  have hrange : (decide (c.toNat < 0x20) ||
      decide (0x7F ≤ c.toNat) && decide (c.toNat < 0xA0)) = true ↔
        c.toNat ≤ 0x1F ∨ 0x7F ≤ c.toNat ∧ c.toNat ≤ 0x9F := by
    simp only [Bool.or_eq_true, Bool.and_eq_true, decide_eq_true_iff]
    omega
  rw [isBareControl, Bool.and_eq_true, hmark, hrange, IsControl]

/-! ## The control characters of a text -/

/-- The control characters of a text, in their order. -/
def controls (s : List Char) : List Char :=
  s.filter (IsControl ·)

@[simp] theorem controls_nil : controls [] = [] := rfl

@[simp] theorem controls_append (s t : List Char) : controls (s ++ t) = controls s ++ controls t :=
  List.filter_append ..

@[simp] theorem controls_cons {c : Char} (h : ¬IsControl c) (s : List Char) :
    controls (c :: s) = controls s :=
  List.filter_cons_of_neg (by simpa using h)

theorem controls_flatMap {α : Type} (f : α → List Char) (s : List α) :
    controls (s.flatMap f) = s.flatMap fun a => controls (f a) :=
  List.filter_flatMap ..

theorem controls_eq_nil_iff {s : List Char} : controls s = [] ↔ ∀ c ∈ s, ¬IsControl c := by
  simp [controls, List.filter_eq_nil_iff]

/-- Letters and digits are no control characters. -/
theorem not_isControl_of_isAlphanum {c : Char} (h : c.isAlphanum = true) : ¬IsControl c := by
  have hranges : c.isAlphanum = ((decide (65 ≤ c.val ∧ c.val ≤ 90) ||
      decide (97 ≤ c.val) && decide (c.val ≤ 122)) ||
        decide (48 ≤ c.val) && decide (c.val ≤ 57)) := rfl
  simp only [hranges, Bool.or_eq_true, Bool.and_eq_true, decide_eq_true_iff,
    UInt32.le_iff_toNat_le] at h
  change ((65 ≤ c.toNat ∧ c.toNat ≤ 90) ∨ (97 ≤ c.toNat ∧ c.toNat ≤ 122)) ∨
    (48 ≤ c.toNat ∧ c.toNat ≤ 57) at h
  rintro ⟨hrange, -⟩
  omega

/-! ## Escaping -/

/-- An entity has no control character, and no control character is written as an entity. -/
theorem controls_escapeChar (c : Char) : controls (escapeChar c) = controls [c] := by
  unfold escapeChar
  split
  · next h => subst h; rfl
  split
  · next h => subst h; rfl
  split
  · next h => subst h; rfl
  split
  · next h => subst h; rfl
  split
  · next h => subst h; rfl
  · rfl

@[simp] theorem controls_escape (s : List Char) : controls (escape s) = controls s := by
  rw [escape, controls_flatMap, funext controls_escapeChar, ← controls_flatMap]
  exact congrArg controls (List.flatMap_singleton' s)

/-- In the text of an element a control character is written as its number. -/
theorem controls_escapeTextChar (c : Char) : controls (escapeTextChar c) = [] := by
  unfold escapeTextChar
  split
  · have hnumber : controls (Text.hex c.toNat) = [] :=
      controls_eq_nil_iff.2 fun d hd => not_isControl_of_isAlphanum
        (Text.isAlphanum_of_mem_toDigits (by decide) (by decide) _ d hd)
    rw [controls_append, controls_append, hnumber]
    rfl
  · next h =>
    rw [controls_escapeChar, controls_eq_nil_iff]
    rw [isBareControl_iff] at h
    simpa using h

@[simp] theorem controls_escapeText (s : List Char) : controls (escapeText s) = [] := by
  rw [escapeText, controls_flatMap]
  exact List.flatMap_eq_nil_iff.2 fun c _ => controls_escapeTextChar c

/-! ## The parts of a file -/

/-- The control characters of some values, one value after the other. -/
def controlsIn (values : List String) : List Char :=
  values.flatMap fun value => controls value.toList

/-- The values of the attributes of a location, in the order of the file. -/
def Location.attributeValues (l : Location) : List String :=
  l.filename.toList ++ l.line.toList

/-- The values of the attributes of a message, in the order of the file. -/
def Message.attributeValues (m : Message) : List String :=
  m.id.toList ++ m.locations.flatMap (·.attributeValues)

/-- The values of the attributes of a catalog, in the order of the file. -/
def Catalog.attributeValues (c : Catalog) : List String :=
  c.version :: (c.language.toList ++ c.sourceLanguage.toList) ++
    c.contexts.flatMap fun context => context.messages.flatMap (·.attributeValues)

namespace Printing

theorem controls_attr {key : String} (hk : controls key.toList = []) (value : String) :
    controls (attr key value) = controls value.toList := by
  simp [attr, hk, IsControl]

theorem controls_optionalAttr {key : String} (hk : controls key.toList = [])
    (value : Option String) :
    controls (optionalAttr key value) = controlsIn value.toList := by
  cases value with
  | none => rfl
  | some value => exact (controls_attr hk value).trans (List.append_nil _).symm

theorem controls_blanks (n : Nat) : controls (List.replicate n ' ') = [] :=
  controls_eq_nil_iff.2 fun c hc => by rw [List.eq_of_mem_replicate hc]; decide

/-- An element with a text is written without control characters. -/
theorem controls_element {name : String} (hn : controls name.toList = []) (indent : Nat)
    (text : String) : controls (element indent name text) = [] := by
  simp [element, controls_blanks, hn, IsControl]

theorem controls_element? {name : String} (hn : controls name.toList = []) (indent : Nat)
    (text : Option String) : (element? indent name text).flatMap controls = [] := by
  cases text with
  | none => rfl
  | some text => exact (List.append_nil _).trans (controls_element hn indent text)

theorem controls_location (l : Location) :
    controls (location l) = controlsIn l.attributeValues := by
  have hfilename : controls "filename".toList = [] := rfl
  have hline : controls "line".toList = [] := rfl
  simp [location, controls_optionalAttr hfilename, controls_optionalAttr hline,
    Location.attributeValues, controlsIn, IsControl]

theorem controls_targetTag (status : Status) : controls (targetTag status) = [] := by
  cases status <;> rfl

/-- The texts of a target are the texts of elements. -/
theorem controls_target (status : Status) (t : Target) :
    (target status t).flatMap controls = [] := by
  have hname : controls "numerusform".toList = [] := rfl
  have hend : controls targetEnd = [] := rfl
  unfold target
  split <;> simp [controls_targetTag, hend, controls_element hname, IsControl]

theorem controls_message (m : Message) :
    (message m).flatMap controls = controlsIn m.attributeValues := by
  have hid : controls "id".toList = [] := rfl
  have hnumerus : controls (if m.numerus then attr "numerus" "yes" else []) = [] := by
    split <;> rfl
  have hend : controls "</message>".toList = [] := rfl
  have hhead : controls (List.replicate 4 ' ' ++ "<message".toList ++ optionalAttr "id" m.id ++
      (if m.numerus then attr "numerus" "yes" else []) ++ ['>']) = controlsIn m.id.toList := by
    simp [controls_optionalAttr hid, hnumerus, IsControl]
  have hlocations : m.locations.flatMap (fun l => controls (location l)) =
      controlsIn (m.locations.flatMap (·.attributeValues)) := by
    simp only [controls_location, controlsIn, List.flatMap_assoc]
  have hsource : controls "source".toList = [] := rfl
  have holdSource : controls "oldsource".toList = [] := rfl
  have hcomment : controls "comment".toList = [] := rfl
  have holdComment : controls "oldcomment".toList = [] := rfl
  have hextra : controls "extracomment".toList = [] := rfl
  have htranslator : controls "translatorcomment".toList = [] := rfl
  simp only [message, List.flatMap_append, List.flatMap_cons, List.flatMap_nil, List.flatMap_map,
    List.append_nil, hhead, hlocations, controls_element hsource, controls_element? holdSource,
    controls_element? hcomment, controls_element? holdComment, controls_element? hextra,
    controls_element? htranslator, controls_target, controls_append, controls_blanks, hend]
  exact List.flatMap_append.symm

theorem controls_context (c : Context) :
    (context c).flatMap controls = controlsIn (c.messages.flatMap (·.attributeValues)) := by
  have hopen : controls "<context>".toList = [] := rfl
  have hname : controls "name".toList = [] := rfl
  have hcomment : controls "comment".toList = [] := rfl
  have hend : controls "</context>".toList = [] := rfl
  simp only [context, List.flatMap_append, List.flatMap_cons, List.flatMap_nil, List.append_nil,
    List.nil_append, hopen, controls_element hname, controls_element? hcomment, hend,
    List.flatMap_assoc, controls_message, controlsIn]

theorem controls_catalog (c : Catalog) :
    (catalog c).flatMap controls = controlsIn c.attributeValues := by
  have hdeclaration :
      controls "<?xml version=\x221.0\x22 encoding=\x22utf-8\x22?>".toList = [] := rfl
  have hdoctype : controls "<!DOCTYPE TS>".toList = [] := rfl
  have hroot : controls "<TS".toList = [] := rfl
  have hversion : controls "version".toList = [] := rfl
  have hlanguage : controls "language".toList = [] := rfl
  have hsource : controls "sourcelanguage".toList = [] := rfl
  have hclose : controls ['>'] = [] := rfl
  have hend : controls "</TS>".toList = [] := rfl
  simp only [catalog, List.flatMap_append, List.flatMap_cons, List.flatMap_nil, List.append_nil,
    List.nil_append, controls_append, hdeclaration, hdoctype, hroot, controls_attr hversion,
    controls_optionalAttr hlanguage, controls_optionalAttr hsource, hclose, hend,
    List.flatMap_assoc, controls_context, controlsIn, Catalog.attributeValues, List.append_assoc,
    List.cons_append]

end Printing

namespace Catalog

/-- The control characters of a file are those in the values of its attributes, so it has none
exactly when none of these values has any. -/
theorem controls_printChars (c : Catalog) :
    controls c.printChars = controlsIn c.attributeValues ∧
      ((∀ char ∈ c.print.toList, ¬IsControl char) ↔
        ∀ value ∈ c.attributeValues, ∀ char ∈ value.toList, ¬IsControl char) := by
  have hcontrols : controls c.printChars = controlsIn c.attributeValues := by
    have hline : ∀ line, controls (line ++ ['\n']) = controls line := fun line => by
      rw [controls_append]
      exact List.append_nil _
    simp only [printChars, controls_flatMap, hline, Printing.controls_catalog]
  refine ⟨hcontrols, ?_⟩
  rw [print, String.toList_ofList, ← controls_eq_nil_iff, hcontrols, controlsIn,
    List.flatMap_eq_nil_iff]
  exact forall₂_congr fun _ _ => controls_eq_nil_iff

/-- A control character that stands in an attribute as its number is read from there, and stands
there as itself in the file that is written. -/
theorem attribute_keeps_control :
    parse ("<?xml version=\x221.1\x22?><TS><context><message id=\x22a&#x1b;b\x22>" ++
        "<source>s</source></message></context></TS>") =
      .ok { contexts := [{ messages := [{ id := some "a\x1bb", source := "s" }] }] } ∧
    ¬∀ char ∈ (print
        { contexts := [{ messages := [{ id := some "a\x1bb", source := "s" }] }] }).toList,
      ¬IsControl char := by
  have hread : parse ("<?xml version=\x221.1\x22?><TS><context><message id=\x22a&#x1b;b\x22>" ++
      "<source>s</source></message></context></TS>") =
        .ok { contexts := [{ messages := [{ id := some "a\x1bb", source := "s" }] }] } := by
    decide +kernel
  have hcontrol : IsControl '\x1b' := by decide
  have hwritten : '\x1b' ∈ (print
      { contexts := [{ messages := [{ id := some "a\x1bb", source := "s" }] }] }).toList := by
    rw [print, String.toList_ofList]
    decide +kernel
  exact ⟨hread, fun h => h '\x1b' hwritten hcontrol⟩

end Catalog

end MessageCatalog
