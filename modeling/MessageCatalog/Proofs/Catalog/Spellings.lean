import Mathlib.Control.Monad.Basic
import MessageCatalog.Proofs.Catalog.Fields
import MessageCatalog.Proofs.Markup.Sections

/-!
# Spellings of a text

A text can be spelled in many ways: each piece of it escaped or plain, verbatim, or as the number of
a character in a reference or in a `byte` element, with comments and instructions in between
(`Spelling`). Whichever way it is spelled, an element that holds it stores the text, and a document
is read the same (`Catalog.spelling_stored`).
-/

namespace MessageCatalog

open Markup

/-! ## Numbers of characters -/

/-- How the number of a character is written. -/
inductive Radix where
  | decimal
  | hexadecimal
  deriving DecidableEq, Repr

namespace Radix

def base : Radix → Nat
  | decimal => 10
  | hexadecimal => 16

/-- What stands in front of the digits. -/
def lead : Radix → List Char
  | decimal => []
  | hexadecimal => ['x']

variable {radix : Radix} {digits : List Char} {n : Nat} {c : Char}

theorem base_pos (radix : Radix) : 0 < radix.base := by
  cases radix <;> decide

theorem isAlphanum (h : Text.StandsFor radix.base digits n) :
    ∀ d ∈ radix.lead ++ digits, d.isAlphanum = true := by
  intro d hd
  rcases List.mem_append.1 hd with hd | hd
  · cases radix with
    | decimal => cases hd
    | hexadecimal =>
      rw [List.mem_singleton.1 hd]
      rfl
  · obtain ⟨value, hvalue⟩ := h.exists_digitValue? d hd
    exact Text.isAlphanum_of_digitValue? hvalue

/-- The first of some digits is neither a sign nor the mark of another radix. -/
theorem exists_cons (h : Text.StandsFor radix.base digits n) : ∃ d rest, digits = d :: rest ∧
    d ≠ '+' ∧ d ≠ '-' ∧ (radix = .decimal → d ≠ 'x' ∧ d ≠ 'X') := by
  cases digits with
  | nil => exact absurd rfl h.1
  | cons d rest =>
    obtain ⟨value, hvalue⟩ := h.exists_digitValue? d List.mem_cons_self
    refine ⟨d, rest, rfl, ?_, ?_, fun hr => ?_⟩
    · rintro rfl
      cases radix <;> cases hvalue
    · rintro rfl
      cases radix <;> cases hvalue
    · subst hr
      constructor <;>
      · rintro rfl
        cases hvalue

theorem readNumeral (h : Text.StandsFor radix.base digits c.toNat) :
    Text.readNumeral radix.base (Nat.pow 2 32) digits = .ok c.toNat :=
  h.readNumeral radix.base_pos c.val.toNat_lt

/-- The value of a `byte` element is read as the character. -/
theorem byteValue_eq (h : Text.StandsFor radix.base digits c.toNat) :
    byteValue (String.ofList (radix.lead ++ digits)) = .ok c := by
  have hread := readNumeral h
  cases radix with
  | hexadecimal =>
    simp only [lead, base, byteValue, String.toList_ofList] at hread ⊢
    simp only [List.cons_append, List.nil_append, hread, charOfCode?_toNat]
  | decimal =>
    obtain ⟨d, rest, rfl, -, -, hd⟩ := exists_cons h
    obtain ⟨hx, hX⟩ := hd rfl
    simp only [base] at hread
    simp [byteValue, lead, hx, hX, hread, charOfCode?_toNat]

/-- The number in a reference is read as the character. -/
theorem readReference_eq (h : Text.StandsFor radix.base digits c.toNat) (hc : c.toNat ≠ 0) :
    readReference (radix.lead ++ digits) = .ok c := by
  have hread := readNumeral h
  obtain ⟨d, rest, rfl, hplus, hminus, hd⟩ := exists_cons h
  cases radix with
  | hexadecimal =>
    simp only [base] at hread
    simp [readReference, lead, hplus, hminus, hread, charOfCode?_toNat]
  | decimal =>
    obtain ⟨hx, -⟩ := hd rfl
    simp only [base] at hread
    simp [readReference, lead, hx, hplus, hminus, hread, charOfCode?_toNat]

end Radix

/-- An entity is read as the character that its name stands for. -/
theorem Markup.unescapeFrom_entity {total place start : Nat} {seen held name : List Char} {c : Char}
    (hn : ';' ∉ name ∧ '&' ∉ name) (hc : resolve (start + 1) (held.reverse ++ name) = .ok c) :
    unescapeFrom total place seen (some (start, held)) (name ++ [';']) =
      .ok (seen.reverse ++ [c]) := by
  induction name generalizing place held with
  | nil =>
    rw [List.append_nil] at hc
    simp [unescapeFrom, hc]
  | cons d name ih =>
    simp only [List.mem_cons, not_or] at hn
    rw [List.cons_append, unescapeFrom]
    simp only [Ne.symm hn.1.1, Ne.symm hn.2.1, if_false]
    exact ih ⟨hn.1.2, hn.2.2⟩ (by simpa using hc)

/-- A reference is read as the character whose number it holds. -/
theorem Radix.unescape_reference {radix : Radix} {digits : List Char} {c : Char}
    (h : Text.StandsFor radix.base digits c.toNat) (hc : c.toNat ≠ 0) :
    unescape ('&' :: '#' :: (radix.lead ++ digits ++ [';'])) = .ok [c] := by
  have hplain : ';' ∉ '#' :: (radix.lead ++ digits) ∧ '&' ∉ '#' :: (radix.lead ++ digits) := by
    have hne {d : Char} (hd : d.isAlphanum = false) : d ∉ radix.lead ++ digits :=
      fun hm => absurd (isAlphanum h d hm) (by rw [hd]; exact Bool.false_ne_true)
    constructor
    · simpa using hne (d := ';') rfl
    · simpa using hne (d := '&') rfl
  have hresolve : resolve 1 ('#' :: (radix.lead ++ digits)) = .ok c := by
    rw [resolve, readReference_eq h hc]
    rfl
  -- The ampersand opens the entity.
  show unescapeFrom _ 1 [] (some (0, [])) ('#' :: (radix.lead ++ digits) ++ [';']) = _
  exact unescapeFrom_entity hplain hresolve

/-! ## Spellings -/

/-- A way to write a piece of a text. -/
inductive Spelling where
  | escaped (s : List Char)
  | plain (s : List Char) (h : '<' ∉ s ∧ '&' ∉ s)
  | verbatim (s : List Char) (h : ¬[']', ']', '>'] <:+: s)
  | reference (radix : Radix) (digits : List Char) (c : Char)
    (h : Text.StandsFor radix.base digits c.toNat) (hc : c.toNat ≠ 0)
  /-- A `byte` element, which closes at once or has an end tag. -/
  | byte (radix : Radix) (digits : List Char) (c : Char) (paired : Bool)
    (h : Text.StandsFor radix.base digits c.toNat)
  /-- A comment between the pieces. -/
  | comment (s : List Char) (h : ¬['-', '-', '>'] <:+: s)
  /-- An instruction between the pieces. -/
  | instruction (s : List Char) (h : ¬['?', '>'] <:+: '?' :: s)

namespace Spelling

/-- The characters as they are written. -/
def written : Spelling → List Char
  | escaped s => escape s
  | plain s _ => s
  | verbatim s _ => "<![CDATA[".toList ++ s ++ "]]>".toList
  | reference radix digits _ _ _ => "&#".toList ++ radix.lead ++ digits ++ [';']
  | byte radix digits _ paired _ =>
    "<byte value=\x22".toList ++ radix.lead ++ digits ++
      (if paired then "\x22></byte>".toList else "\x22/>".toList)
  | comment s _ => "<!--".toList ++ s ++ "-->".toList
  | instruction s _ => "<?".toList ++ s ++ "?>".toList

/-- The characters that are meant. -/
def text : Spelling → List Char
  | escaped s | plain s _ | verbatim s _ => s
  | reference _ _ c _ _ | byte _ _ c _ _ => [c]
  | comment _ _ | instruction _ _ => []

end Spelling

namespace Assembly
variable {a : Assembly}

/-- A `byte` element is read as its character, with an end tag or without. -/
theorem reads_byte_spelling (hf : a.field.isSome = true) (hs : a.skipDepth = 0)
    (hb : a.inByte = false) {radix : Radix} {digits : List Char} {c : Char} (paired : Bool)
    (h : Text.StandsFor radix.base digits c.toNat) :
    Reads ("<byte value=\x22".toList ++ radix.lead ++ digits ++
      (if paired then "\x22></byte>".toList else "\x22/>".toList)) a
      { a with text := a.text ++ String.ofList [c] } := by
  have hv := Radix.byteValue_eq h
  have ht := isTag_byte (String.ofList (radix.lead ++ digits))
  have hw : writeAttributes [⟨"value", String.ofList (radix.lead ++ digits)⟩] =
      " value=\x22".toList ++ (radix.lead ++ digits) ++ ['\x22'] := by
    simp [writeAttributes, Printing.attr, escape_alphanum (Radix.isAlphanum h)]
  cases paired with
  | true =>
    have hopen : a.openTag (writtenTag "byte" [⟨"value", String.ofList (radix.lead ++ digits)⟩]) =
        .ok { a with text := a.text.push c, inByte := true } := by
      rw [openTag_byte hf hs ht.name_eq, byteOf_writtenTag hv]
      rfl
    have hr := Reads.element ht hopen (Reads.nil _) (closeTag_byte hs hb rfl (a.text.push c))
    rw [hw] at hr
    simpa using hr
  | false =>
    have hr := reads_byte hf hs hb hv
    rw [hw] at hr
    simpa using hr

theorem addText_nil (a : Assembly) : a.addText [] = a := by
  simp [addText]

/-- A verbatim section is read as what stands in it. -/
theorem reads_verbatim {s : List Char} (h : ¬[']', ']', '>'] <:+: s) (a : Assembly) :
    Reads ("<![CDATA[".toList ++ s ++ "]]>".toList) a (a.addText s) := by
  have he : Event.ofPiece (.verbatim ("![CDATA[".toList ++ (s ++ [']', ']']))) =
      .ok (.verbatim s) := by
    have hp : "![CDATA[".toList.isPrefixOf ("![CDATA[".toList ++ (s ++ [']', ']'])) = true :=
      List.isPrefixOf_iff_prefix.2 (List.prefix_append _ _)
    have hd : ("![CDATA[".toList ++ (s ++ [']', ']'])).drop 8 = s ++ [']', ']'] := rfl
    rw [Event.ofPiece, if_pos hp, hd]
    simp
  have hr := Reads.piece (a := a) (isWhole_verbatim h) he (fun _ => rfl) rfl
  simpa [Piece.source] using hr

/-- A piece of no interest to a document does nothing. -/
theorem reads_aside {p : Piece} (hw : p.IsWhole) (he : Event.ofPiece p = .ok .aside)
    (a : Assembly) : Reads p.source a a :=
  Reads.piece hw he (fun _ => rfl) rfl

theorem reads_comment {s : List Char} (h : ¬['-', '-', '>'] <:+: s) (a : Assembly) :
    Reads ("<!--".toList ++ s ++ "-->".toList) a a := by
  have hr := reads_aside (isWhole_comment h) rfl a
  simpa [Piece.source] using hr

theorem reads_instruction {s : List Char} (h : ¬['?', '>'] <:+: '?' :: s) (a : Assembly) :
    Reads ("<?".toList ++ s ++ "?>".toList) a a := by
  have he : Event.ofPiece (.instruction ('?' :: (s ++ ['?']))) = .ok .aside := by
    rw [Event.ofPiece, if_neg (by simp)]
  have hr := reads_aside (isWhole_instruction h) he a
  simpa [Piece.source] using hr

theorem reads_reference {radix : Radix} {digits : List Char} {c : Char}
    (h : Text.StandsFor radix.base digits c.toNat) (hc : c.toNat ≠ 0) (a : Assembly) :
    Reads ("&#".toList ++ radix.lead ++ digits ++ [';']) a (a.addText [c]) := by
  have hplain : '<' ∉ '&' :: '#' :: (radix.lead ++ digits ++ [';']) := by
    have hne : '<' ∉ radix.lead ++ digits := fun hm => absurd (Radix.isAlphanum h _ hm) (by decide)
    simpa using hne
  have hr := Reads.text hplain (Radix.unescape_reference h hc) a
  simpa using hr

/-- In a field each spelling of a text is read as the text. -/
theorem reads_spelling (hf : a.field.isSome = true) (hs : a.skipDepth = 0) (hb : a.inByte = false)
    (p : Spelling) : Reads p.written a { a with text := a.text ++ String.ofList p.text } := by
  rw [← addText_of_field hf hs]
  cases p with
  | escaped s => exact Reads.text (not_mem_escape (by simp) s) (unescape_escape s) a
  | plain s h => exact Reads.text h.1 (unescape_plain h.2) a
  | verbatim s h => exact reads_verbatim h a
  | reference radix digits c h hc => exact reads_reference h hc a
  | byte radix digits c paired h =>
    rw [addText_of_field hf hs]
    exact reads_byte_spelling hf hs hb paired h
  | comment s h =>
    rw [Spelling.text, addText_nil]
    exact reads_comment h a
  | instruction s h =>
    rw [Spelling.text, addText_nil]
    exact reads_instruction h a

/-- In a field the spellings of the pieces of a text are read as the text. -/
theorem reads_spellings (hf : a.field.isSome = true) (hs : a.skipDepth = 0) (hb : a.inByte = false)
    (spellings : List Spelling) : Reads (spellings.flatMap Spelling.written) a
      { a with text := a.text ++ String.ofList (spellings.flatMap Spelling.text) } := by
  induction spellings generalizing a with
  | nil => simpa using Reads.nil a
  | cons p spellings ih =>
    have hrest := ih (a := { a with text := a.text ++ String.ofList p.text }) hf hs hb
    rw [String.append_assoc, ← String.ofList_append] at hrest
    exact (reads_spelling hf hs hb p).append hrest

end Assembly

/-! ## Elements -/

/-- An element that holds a text, as it is written. -/
def spelledElement (first last : Piece) (spellings : List Spelling) : List Char :=
  first.source ++ spellings.flatMap Spelling.written ++ last.source

/-- Before an element that holds a text something has been read. -/
theorem ne_nil_of_runAll {before : List Char} {r : Reading}
    (h : Reading.runAll {} (cut (dropByteOrderMark before)) = .ok r)
    (hopen : r.assembly.IsOpen) : before ≠ [] := by
  rintro rfl
  cases h
  exact absurd hopen.root Bool.false_ne_true

/-- Characters that are read behind a text are read to their end. -/
theorem Assembly.Reads.runAll_append {s before : List Char} {a b : Assembly} {place : Nat}
    {nesting : Nesting} (h : Assembly.Reads s a b) (hne : before ≠ [])
    (hbefore : Reading.runAll {} (cut (dropByteOrderMark before)) = .ok ⟨place, nesting, a⟩) :
    ∃ place', Reading.runAll {} (cut (dropByteOrderMark (before ++ s))) =
      .ok ⟨place', nesting, b⟩ := by
  obtain ⟨ps, hwhole, rfl, hrun⟩ := h
  obtain ⟨place', hrun⟩ := hrun place nesting
  rw [dropByteOrderMark_append hne, cut_append]
  exact ⟨place', Reading.runAll_foldl_source hbefore hwhole hrun⟩

/-- An element that holds a text is read up to its end tag, however the text is spelled. -/
theorem runAll_spelledElement {before : List Char} {place : Nat} {nesting : Nesting}
    {a b : Assembly} (ha : a.IsOpen) {field : Field} (hb : Assembly.IsBegun a b field)
    (hbefore : Reading.runAll {} (cut (dropByteOrderMark before)) = .ok ⟨place, nesting, a⟩)
    {tag : Tag} (hopen : a.openTag tag = .ok b) {first last : Piece}
    (hfirst : first.IsWhole ∧ Event.ofPiece first = .ok (.opening tag))
    (hlast : last.IsWhole ∧ Event.ofPiece last = .ok (.closing tag.name))
    (spellings : List Spelling) : ∃ place',
      Reading.runAll {} (cut (dropByteOrderMark (before ++ spelledElement first last spellings))) =
        .ok ⟨place', nesting,
          { b with text := String.ofList (spellings.flatMap Spelling.text) }.closeField field⟩ := by
  have hspelled :=
    Assembly.reads_spellings (by rw [hb.field_eq]; rfl) hb.notSkipping hb.noByte spellings
  rw [hb.text, String.empty_append] at hspelled
  have helement := Assembly.Reads.encloses (.pair hfirst hlast) hopen hspelled (hb.closeTag _ _)
  exact helement.runAll_append (ne_nil_of_runAll hbefore ha) hbefore

/-! ## Documents -/

namespace Catalog
open Assembly

/-- What stands behind texts that leave the same elements open and the same assembly is read the
same. -/
theorem parseChars_congr {s t : List Char} (hs : s ≠ []) (ht : t ≠ []) {r₁ r₂ : Reading}
    (h₁ : Reading.runAll {} (cut (dropByteOrderMark s)) = .ok r₁)
    (h₂ : Reading.runAll {} (cut (dropByteOrderMark t)) = .ok r₂) (h : r₁.Agree r₂)
    {behind : List Char} {c : Catalog} (hparse : parseChars (s ++ behind) = .ok c) :
    parseChars (t ++ behind) = .ok c := by
  rw [parseChars_eq_ok_iff, dropByteOrderMark_append hs, cut_append] at hparse
  rw [parseChars_eq_ok_iff, dropByteOrderMark_append ht, cut_append]
  obtain ⟨r, hr, hc⟩ := hparse
  obtain ⟨r', hr', hagree⟩ := h.exists_runAll_foldl h₁ h₂ hr
  exact ⟨r', hr', hagree.2 ▸ hc⟩

/-- An element that holds a text stores the text that its pieces make up, however each of them is
spelled, and a document is read the same when the text is split and spelled in another way. -/
theorem spelling_stored {before : List Char} {place : Nat} {nesting : Nesting} {a b : Assembly}
    (hbefore : Reading.runAll {} (cut (dropByteOrderMark before)) = .ok ⟨place, nesting, a⟩)
    (hfree : a.IsFree) {tag : Tag} {field : Field}
    (hholds : a.HoldsText (String.ofList tag.name) field) (hopen : a.openTag tag = .ok b)
    {first last : Piece} (hfirst : first.IsWhole ∧ Event.ofPiece first = .ok (.opening tag))
    (hlast : last.IsWhole ∧ Event.ofPiece last = .ok (.closing tag.name))
    (spellings : List Spelling) :
    (∃ (place' : Nat) (d : Assembly), Reading.runAll {}
        (cut (dropByteOrderMark (before ++ spelledElement first last spellings))) =
          .ok ⟨place', nesting, d⟩ ∧
      d.Stores (a.storedText field (String.ofList (spellings.flatMap Spelling.text))) field) ∧
    ∀ others : List Spelling,
      others.flatMap Spelling.text = spellings.flatMap Spelling.text →
        ∀ (behind : List Char) (c : Catalog),
          parseChars (before ++ spelledElement first last others ++ behind) = .ok c ↔
            parseChars (before ++ spelledElement first last spellings ++ behind) = .ok c := by
  have hb := hholds.isBegun hfree hopen
  have hread := runAll_spelledElement hfree.toIsOpen hb hbefore hopen hfirst hlast
  have htidy : a.IsTidy :=
    kept_isTidy.run (Reading.runAll_eq_ok_iff.1 hbefore).2 isTidy_empty
  refine ⟨?_, fun others htext behind c => ?_⟩
  · obtain ⟨place', hspelled⟩ := hread spellings
    refine ⟨place', _, hspelled, ?_⟩
    rw [hholds.storedText_eq htidy]
    exact hb.stores_closeField _
  · obtain ⟨place₁, h₁⟩ := hread others
    obtain ⟨place₂, h₂⟩ := hread spellings
    rw [htext] at h₁
    have hne (element : List Char) : before ++ element ≠ [] :=
      List.append_ne_nil_of_left_ne_nil (ne_nil_of_runAll hbefore hfree.toIsOpen) element
    exact ⟨parseChars_congr (hne _) (hne _) h₁ h₂ ⟨rfl, rfl⟩,
      parseChars_congr (hne _) (hne _) h₂ h₁ ⟨rfl, rfl⟩⟩

/-- A text in six pieces, spelled in six ways. -/
def sixWays : List Spelling :=
  [.plain " a".toList (by decide), .verbatim "<b>]]".toList (by decide),
    .comment " c ".toList (by decide), .reference .hexadecimal "00e4".toList 'ä'
      ⟨by decide, [0, 0, 14, 4], by repeat constructor, by decide⟩ (by decide),
    .byte .decimal "10".toList '\n' true ⟨by decide, [1, 0], by repeat constructor, by decide⟩,
    .instruction "d".toList (by decide), .escaped "&\t".toList]

theorem spelling_stored_sixWays :
    parseChars ("<TS><context><message>".toList ++ spelledElement (.tag "source".toList)
      (.tag "/source".toList) sixWays ++ "</message></context></TS>".toList) =
        .ok { contexts := [{ messages := [{ source := " a<b>]]ä\n&\t" }] }] } := by
  have hbefore : Reading.runAll {} (cut (dropByteOrderMark "<TS><context><message>".toList)) =
      .ok ⟨22, ["message".toList, "context".toList, "TS".toList],
        { catalog := some {}, context := some {}, message := some {} }⟩ := rfl
  have hfirst : (Piece.tag "source".toList).IsWhole ∧
      Event.ofPiece (.tag "source".toList) = .ok (.opening ⟨"source".toList⟩) := ⟨rfl, rfl⟩
  have hlast : (Piece.tag "/source".toList).IsWhole ∧
      Event.ofPiece (.tag "/source".toList) = .ok (.closing "source".toList) := ⟨rfl, rfl⟩
  have hstored := spelling_stored hbefore ⟨⟨rfl, rfl, rfl⟩, rfl⟩ (.ofMessage rfl rfl rfl) rfl
    hfirst hlast [.escaped " a<b>]]ä\n&\t".toList]
  refine (hstored.2 sixWays (by decide) _ _).2 ?_
  decide +kernel

/-- A form behind a variant of its target takes the variant for its text. -/
theorem form_behind_variant :
    parseChars ("<TS><context><message><translation><lengthvariant>a</lengthvariant>".toList ++
      spelledElement (.tag "numerusform".toList) (.tag "/numerusform".toList)
        [.escaped "b".toList] ++ "</translation></message></context></TS>".toList) =
      .ok { contexts := [{ messages := [{ target := .plural ["a"] }] }] } := by
  decide +kernel

end Catalog

end MessageCatalog
