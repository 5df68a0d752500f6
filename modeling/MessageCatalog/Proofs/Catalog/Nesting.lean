import Mathlib.Control.Monad.Basic
import MessageCatalog.Proofs.Catalog.Fields

/-!
# Elements inside an element that holds a text

An element that holds a text goes on to its own end tag, whatever stands in it: an element that is
skipped adds nothing, and a `byte` element adds its character and the text inside it. What is open
in the element tells what the assembly is (`Assembly.inside`), which each event keeps
(`IsBegun.take_inside`), so the text that is stored has all the text of the element's own in it
(`Catalog.own_text_stored`).

There are exceptions (`Event.Fits`). In the fields of a context three elements are not skipped, and
they discard the text or end the field. A `byte` element inside another one ends it, so that the end
tag of the other one ends the field. And a form behind a variant of its target loses its text to the
variant.
-/

namespace MessageCatalog

open Markup

/-! ## Text of its own -/

namespace Markup

/-- The characters that an event adds to a text. -/
def Event.chars : Event → List Char
  | .text raw => (unescape raw).toOption.getD []
  | .verbatim content => content
  | .opening tag | .selfClosing tag =>
    if String.ofList tag.name = "byte" then (Assembly.byteOf tag).toOption.toList else []
  | .closing _ | .aside => []

/-- The characters that the pieces add where they count, which is told by the elements that are
open. -/
def textWhere (counts : Nesting → Bool) : Nesting → List Piece → List Char
  | _, [] => []
  | opened, p :: rest =>
    match Event.ofPiece p with
    | .error _ => []
    | .ok e =>
      (if counts opened then e.chars else []) ++
        match opened.after e with
        | .error _ => []
        | .ok opened => textWhere counts opened rest

/-- Of the elements that are open in a field, the outermost is a `byte` element. -/
def Nesting.inByte (opened : Nesting) : Bool :=
  opened.getLast?.any fun name => String.ofList name == "byte"

/-- How many of the elements that are open in a field are skipped: all but a `byte` element that
stands in the field itself. -/
def Nesting.skipped (opened : Nesting) : Nat :=
  if opened.inByte then opened.length - 1 else opened.length

/-- The text, verbatim text and characters of an element that stand in no other element. -/
def ownText (content : List Piece) : List Char :=
  textWhere List.isEmpty [] content

/-- The text of an element that is read: its own, and what stands in its `byte` elements. -/
def readText (content : List Piece) : List Char :=
  textWhere (fun opened => opened.skipped == 0) [] content

theorem textWhere_sublist {counts counts' : Nesting → Bool}
    (h : ∀ opened, counts opened = true → counts' opened = true) (opened : Nesting)
    (ps : List Piece) : (textWhere counts opened ps).Sublist (textWhere counts' opened ps) := by
  induction ps generalizing opened with
  | nil => exact .refl _
  | cons p ps ih =>
    simp only [textWhere]
    cases Event.ofPiece p with
    | error fault => exact .refl _
    | ok e =>
      refine List.Sublist.append ?_ ?_
      · by_cases hc : counts opened = true
        · have hchars : (if counts opened = true then e.chars else []) =
              if counts' opened = true then e.chars else [] := by
            rw [if_pos hc, if_pos (h opened hc)]
          exact hchars ▸ .refl _
        · rw [if_neg hc]
          exact List.nil_sublist _
      · cases opened.after e with
        | error fault => exact .refl _
        | ok opened' => exact ih opened'

theorem ownText_sublist_readText (content : List Piece) :
    (ownText content).Sublist (readText content) := by
  refine textWhere_sublist (fun opened h => ?_) [] content
  rw [List.isEmpty_iff.1 h]
  rfl

/-! ## Content that fits -/

/-- An element that opens in the field itself, or in a `byte` element there, is one that is skipped.
In the field itself it may be a `byte` element too. -/
def Event.Fits (known : List String) (opened : Nesting) : Event → Prop
  | .opening tag | .selfClosing tag =>
    opened.skipped = 0 → String.ofList tag.name ∉ known ∧
      (opened.inByte = true → String.ofList tag.name ≠ "byte")
  | _ => True

instance (known : List String) (opened : Nesting) :
    (e : Event) → Decidable (e.Fits known opened)
  | .opening _ | .selfClosing _ => inferInstanceAs (Decidable (_ → _))
  | .closing _ | .text _ | .verbatim _ | .aside => inferInstanceAs (Decidable True)

/-- The content of an element up to its end tag, from where some elements are open in it. -/
inductive IsInside (known : List String) : Nesting → List Piece → Prop
  | nil : IsInside known [] []
  | cons {p : Piece} {e : Event} {opened opened' : Nesting} {rest : List Piece}
    (he : Event.ofPiece p = .ok e) (hn : opened.after e = .ok opened') (hf : e.Fits known opened)
    (hr : IsInside known opened' rest) : IsInside known opened (p :: rest)

namespace Nesting
variable {opened opened' : Nesting}

theorem after_append {e : Event} (h : opened.after e = .ok opened') (outer : Nesting) :
    Nesting.after (opened ++ outer) e = .ok (opened' ++ outer) := by
  cases e with
  | closing name =>
    cases opened with
    | nil => cases h
    | cons expected opened =>
      simp only [after] at h
      split at h
      · next hn =>
        cases h
        exact if_pos hn
      · cases h
  | _ =>
    cases h
    rfl

theorem inByte_cons (h : opened ≠ []) (name : List Char) :
    inByte (name :: opened) = opened.inByte := by
  unfold inByte
  rw [List.getLast?_cons_of_ne_nil h]

theorem skipped_cons (h : opened ≠ []) (name : List Char) :
    skipped (name :: opened) = opened.skipped + 1 := by
  have hpos : 0 < opened.length := List.length_pos_iff.2 h
  unfold skipped
  rw [inByte_cons h, List.length_cons]
  split <;> omega

/-- Where nothing is skipped and no `byte` element is open, nothing is open. -/
theorem eq_nil_of_skipped (h : opened.skipped = 0) (hb : opened.inByte = false) : opened = [] := by
  unfold skipped at h
  rw [hb] at h
  exact List.length_eq_zero_iff.1 h

end Nesting

end Markup

namespace Assembly
variable {a b d : Assembly} {field : Field} {opened : Nesting} {name text : List Char}

/-! ## Inside the element -/

/-- Behind the start tag of a field, some text has been read and elements are open. -/
def inside (b : Assembly) (opened : Nesting) (text : List Char) : Assembly :=
  { b with text := String.ofList text, inByte := opened.inByte, skipDepth := opened.skipped }

/-- One more element is skipped, if it stands in another one or is no `byte` element. -/
theorem inside_cons (h : opened ≠ [] ∨ String.ofList name ≠ "byte") (text : List Char) :
    inside b (name :: opened) text =
      { inside b opened text with skipDepth := opened.skipped + 1 } := by
  by_cases ho : opened = []
  · subst ho
    have hn := h.resolve_left (fun h => h rfl)
    simp [inside, Nesting.skipped, Nesting.inByte, hn]
  · unfold inside
    rw [Nesting.skipped_cons ho, Nesting.inByte_cons ho]

theorem inside_byte (hn : String.ofList name = "byte") (text : List Char) :
    inside b [name] text = { inside b [] text with inByte := true } := by
  simp [inside, Nesting.skipped, Nesting.inByte, hn]

namespace IsBegun

theorem inside_nil (hb : IsBegun a b field) (text : List Char) :
    inside b [] text = { b with text := String.ofList text } := by
  have hn := hb.noByte
  have hs := hb.notSkipping
  obtain ⟨⟩ := b
  simp only at hn hs
  subst hn hs
  rfl

theorem knownNames_inside (hb : IsBegun a b field) (opened : Nesting) (text : List Char) :
    (inside b opened text).knownNames = "byte" :: field.knownInside :=
  hb.knownNames

/-- An element that fits opens: its character is added, or one more element is skipped. -/
theorem openTag_inside (hb : IsBegun a b field) {tag : Tag}
    (hf : Event.Fits field.knownInside opened (.opening tag))
    (ho : (inside b opened text).openTag tag = .ok d) :
    d = inside b (tag.name :: opened)
      (text ++ if opened.skipped == 0 then (Event.opening tag).chars else []) := by
  by_cases hs : opened.skipped = 0
  · obtain ⟨hknown, hbyte⟩ := hf hs
    rw [if_pos (beq_iff_eq.2 hs), Event.chars]
    by_cases hn : String.ofList tag.name = "byte"
    · -- A character stands in the field itself.
      have hnil : opened = [] :=
        Nesting.eq_nil_of_skipped hs (Bool.eq_false_iff.2 fun h => hbyte h hn)
      subst hnil
      have hfield : (inside b [] text).field.isSome = true := by
        rw [show (inside b [] text).field = b.field from rfl, hb.field_eq]
        rfl
      rw [openTag_byte hfield rfl hn] at ho
      rw [if_pos hn, inside_byte hn]
      cases hc : byteOf tag with
      | error fault =>
        rw [hc] at ho
        cases ho
      | ok c =>
        rw [hc] at ho
        cases ho
        simp [inside, Except.toOption, String.ofList_append]
    · have hopen : (inside b opened text).IsOpen := ⟨hb.root, hb.notClosed, hs⟩
      rw [openTag_unknown hopen (by simp [hb.knownNames_inside, hn, hknown])] at ho
      cases ho
      rw [if_neg hn, List.append_nil, inside_cons (.inr hn), hs]
      rfl
  · rw [openTag_of_skipping (Nat.pos_of_ne_zero hs)] at ho
    cases ho
    rw [if_neg (by simpa using hs), List.append_nil, inside_cons (.inl ?_)]
    · rfl
    · rintro rfl
      exact hs rfl

/-- The innermost element closes, and leaves nothing behind. -/
theorem closeTag_inside (b : Assembly) (opened : Nesting) (name text : List Char) :
    (inside b (name :: opened) text).closeTag name = inside b opened text := by
  by_cases h : opened ≠ [] ∨ String.ofList name ≠ "byte"
  · rw [inside_cons h]
    exact closeTag_deeper _ _
  · obtain ⟨h, hn⟩ := not_or.1 h
    have hn := Decidable.not_not.1 hn
    obtain rfl := Decidable.not_not.1 h
    rw [inside_byte hn]
    exact closeTag_byte rfl rfl hn (String.ofList text)

theorem addText_inside (hb : IsBegun a b field) (opened : Nesting) (text s : List Char) :
    (inside b opened text).addText s =
      inside b opened (text ++ if opened.skipped == 0 then s else []) := by
  by_cases hs : opened.skipped = 0
  · simp [addText, inside, hb.field_eq, hs, String.ofList_append]
  · simp [addText, inside, hs]

/-- What an event that fits does in the element is told by the elements that are open. -/
theorem take_inside (hb : IsBegun a b field) {e : Event} {opened' : Nesting}
    (hf : e.Fits field.knownInside opened) (hn : opened.after e = .ok opened')
    (ht : (inside b opened text).take e = .ok d) :
    d = inside b opened' (text ++ if opened.skipped == 0 then e.chars else []) := by
  cases e with
  | opening tag =>
    cases hn
    exact hb.openTag_inside hf ht
  | selfClosing tag =>
    cases hn
    simp only [take] at ht
    cases ho : (inside b opened text).openTag tag with
    | error fault =>
      rw [ho] at ht
      cases ht
    | ok c =>
      rw [ho, hb.openTag_inside hf ho] at ht
      cases ht
      exact closeTag_inside b opened tag.name _
  | closing name =>
    cases ht
    cases opened with
    | nil => cases hn
    | cons expected opened =>
      simp only [Nesting.after] at hn
      split at hn
      · next h =>
        cases hn
        subst h
        rw [closeTag_inside, Event.chars, ite_self, List.append_nil]
      · cases hn
  | text raw =>
    cases hn
    simp only [take] at ht
    cases hu : unescape raw with
    | error fault =>
      rw [hu] at ht
      cases ht
    | ok s =>
      rw [hu] at ht
      cases ht
      rw [hb.addText_inside, Event.chars, hu]
      rfl
  | verbatim content =>
    cases hn
    cases ht
    rw [hb.addText_inside, Event.chars]
  | aside =>
    cases hn
    cases ht
    rw [Event.chars, ite_self, List.append_nil]

/-- What stands in the element is read up to its end tag, and the text is collected. -/
theorem run_inside (hb : IsBegun a b field) {ps : List Piece}
    (h : IsInside field.knownInside opened ps) {place : Nat} {outer : Nesting} {r : Reading}
    (hr : Reading.run ⟨place, opened ++ outer, inside b opened text⟩ ps = .ok r) :
    r.nesting = outer ∧ r.assembly =
      inside b [] (text ++ textWhere (fun opened => opened.skipped == 0) opened ps) := by
  induction h generalizing place text with
  | nil =>
    cases hr
    exact ⟨rfl, by rw [textWhere, List.append_nil]⟩
  | cons he hn hf _ ih =>
    obtain ⟨q, hq, hr⟩ := Reading.run_cons hr
    obtain ⟨e, he', hn', ht⟩ := Reading.exists_event_of_take hq
    obtain rfl : _ = e := Except.ok.inj (he.symm.trans he')
    obtain ⟨place', nesting, c⟩ := q
    obtain rfl : _ = nesting := Except.ok.inj ((Nesting.after_append hn outer).symm.trans hn')
    obtain rfl : c = _ := hb.take_inside hf hn ht
    simp only [textWhere, he, hn, ← List.append_assoc]
    exact ih hr

/-- The element of the field is read up to its own end tag. -/
theorem assembly_of_run_element (hb : IsBegun a b field) {first last : Piece} {tag : Tag}
    (hfirst : Event.ofPiece first = .ok (.opening tag)) (hopen : a.openTag tag = .ok b)
    (hlast : Event.ofPiece last = .ok (.closing tag.name)) {inner : List Piece}
    (hinner : IsInside field.knownInside [] inner) {place : Nat} {nesting : Nesting} {r : Reading}
    (hr : Reading.run ⟨place, nesting, a⟩ (first :: (inner ++ [last])) = .ok r) :
    r.nesting = nesting ∧
      r.assembly = { b with text := String.ofList (readText inner) }.closeField field := by
  obtain ⟨r₁, h₁, hr⟩ := Reading.run_cons hr
  obtain rfl : _ = r₁ := Except.ok.inj ((Reading.take_event hfirst rfl hopen).symm.trans h₁)
  obtain ⟨⟨place', nesting', c⟩, hcontent, hr⟩ := Reading.run_append_eq_ok hr
  -- Behind the start tag no element is open in the field, and there is no text in it.
  have hstart : inside b [] [] = b := by rw [hb.inside_nil, String.ofList_nil, ← hb.text]
  rw [← hstart] at hcontent
  obtain ⟨hnesting, hc⟩ := hb.run_inside hinner hcontent
  obtain rfl : nesting' = _ := hnesting
  obtain rfl : c = _ := hc
  rw [List.nil_append, hb.inside_nil] at hr
  obtain ⟨r₂, h₂, hr⟩ := Reading.run_cons hr
  cases hr
  obtain ⟨e, he, hn, hclose⟩ := Reading.exists_event_of_take h₂
  obtain rfl := Except.ok.inj (hlast.symm.trans he)
  refine ⟨(Except.ok.inj ((Nesting.after_closing tag.name nesting).symm.trans hn)).symm, ?_⟩
  rw [← Except.ok.inj hclose]
  exact hb.closeTag _ tag.name

/-- A run of text in the field is collected. -/
theorem run_text (hb : IsBegun a b field) (text : List Char) (place : Nat) (nesting : Nesting) :
    ∃ place', Reading.run ⟨place, nesting, b⟩ [.text (escape text)] =
      .ok ⟨place', nesting, { b with text := String.ofList text }⟩ := by
  have hadd := addText_of_field (by rw [hb.field_eq]; rfl) hb.notSkipping text
  rw [hb.text, String.empty_append] at hadd
  rw [← hadd]
  exact ⟨_, Reading.run_singleton (Reading.take_text (unescape_escape text))⟩

end IsBegun

end Assembly

/-! ## Documents -/

namespace Catalog
open Assembly

/-- In every document that is parsed, an element that holds a text goes on to its own end tag. If
what stands in it fits, the text that is stored is what is read up to there, with all the text of
its own in it, and the document is assembled as if the element held that text alone. -/
theorem own_text_stored {s : List Char} {c : Catalog} (hparse : parseChars s = .ok c)
    {before inner behind : List Piece} {first last : Piece}
    (hcut : (cut (dropByteOrderMark s)).finished =
      before ++ (first :: (inner ++ [last]) ++ behind))
    {tag : Tag} (hfirst : Event.ofPiece first = .ok (.opening tag))
    (hlast : Event.ofPiece last = .ok (.closing tag.name))
    {place : Nat} {nesting : Nesting} {a : Assembly}
    (hbefore : Reading.run {} before = .ok ⟨place, nesting, a⟩) (hfree : a.IsFree) {field : Field}
    (hholds : a.HoldsText (String.ofList tag.name) field)
    (hinner : IsInside field.knownInside [] inner) :
    (ownText inner).Sublist (readText inner) ∧
      ∃ d : Assembly, d.Stores (a.storedText field (String.ofList (readText inner))) field ∧
        (∃ place', Reading.run ⟨place, nesting, a⟩ (first :: (inner ++ [last])) =
          .ok ⟨place', nesting, d⟩) ∧
        ∃ r, Reading.run {} (before ++ (first :: ([.text (escape (readText inner))] ++ [last]) ++
          behind)) = .ok r ∧ r.assembly.finish = .ok c := by
  refine ⟨ownText_sublist_readText inner, ?_⟩
  obtain ⟨r, hr, hfinish⟩ := parseChars_eq_ok_iff.1 hparse
  have hrun := (Reading.runAll_eq_ok_iff.1 hr).2
  rw [hcut, Reading.run_append hbefore] at hrun
  obtain ⟨⟨place', nesting', d⟩, helement, hbehind⟩ := Reading.run_append_eq_ok hrun
  -- The start tag has been read, so it has opened the field.
  obtain ⟨r₁, h₁, -⟩ := Reading.run_cons helement
  obtain ⟨e, he, -, hopen⟩ := Reading.exists_event_of_take h₁
  obtain rfl := Except.ok.inj (hfirst.symm.trans he)
  have hb := hholds.isBegun hfree hopen
  obtain ⟨hnesting, hd⟩ := hb.assembly_of_run_element hfirst hopen hlast hinner helement
  obtain rfl : nesting' = nesting := hnesting
  change d = _ at hd
  refine ⟨d, ?_, ⟨place', helement⟩, ?_⟩
  · rw [hholds.storedText_eq (kept_isTidy.run hbefore isTidy_empty), hd]
    exact hb.stores_closeField _
  · obtain ⟨place'', htext⟩ :=
      hb.run_element hfirst hopen hlast (hb.run_text (readText inner)) place nesting'
    rw [← hd] at htext
    have hend : Reading.Agree ⟨place', nesting', d⟩ ⟨place'', nesting', d⟩ := ⟨rfl, rfl⟩
    obtain ⟨r', hr', hagree⟩ := hend.exists_run hbehind
    exact ⟨r', by rw [Reading.run_append hbefore, Reading.run_append htext, hr'],
      hagree.2 ▸ hfinish⟩

/-- A name with another name inside an element that is skipped, and a character with a text. -/
def mixedName : List Piece :=
  [.text "a".toList, .tag "extra".toList, .tag "name".toList, .text "x".toList,
    .tag "/name".toList, .tag "/extra".toList, .text "&amp;".toList,
    .tag "byte value='x41'".toList, .text "b".toList, .tag "/byte".toList, .text "c".toList]

/-- A document with the name. -/
def mixedDocument : String :=
  "<TS><context><name>a<extra><name>x</name></extra>&amp;<byte value='x41'>b</byte>c</name>" ++
    "</context></TS>"

theorem own_text_stored_mixed : ownText mixedName = "a&Ac".toList ∧
    ∃ d : Assembly, d.Stores "a&Abc" .contextName ∧ ∃ place, Reading.run
      ⟨13, ["context".toList, "TS".toList], { catalog := some {}, context := some {} }⟩
      (.tag "name".toList :: (mixedName ++ [.tag "/name".toList])) =
        .ok ⟨place, ["context".toList, "TS".toList], d⟩ := by
  have hparse : parseChars mixedDocument.toList =
      .ok { contexts := [{ name := "a&Abc" }] } := by decide +kernel
  have hcut : (cut (dropByteOrderMark mixedDocument.toList)).finished =
      [.tag "TS".toList, .tag "context".toList] ++
        (.tag "name".toList :: (mixedName ++ [.tag "/name".toList]) ++
          [.tag "/context".toList, .tag "/TS".toList]) := by decide +kernel
  have hinner : IsInside (Field.knownInside .contextName) [] mixedName := by
    unfold mixedName
    repeat' first | exact .nil | refine .cons rfl rfl (by decide) ?_
  obtain ⟨-, d, hd, hrun, -⟩ := own_text_stored hparse hcut rfl rfl rfl
    ⟨⟨rfl, rfl, rfl⟩, rfl⟩ (.contextName rfl rfl rfl) hinner
  exact ⟨by decide +kernel, d, hd, hrun⟩

/-- Elsewhere text of an element's own is lost: in front of an element that is not skipped in a
field of a context, behind a `byte` element inside another one, and in a form behind a variant of
its target. -/
theorem own_text_lost :
    parseChars "<TS><context><name>A<comment>note</comment>B</name></context></TS>".toList =
        .ok { contexts := [{ name := "", comment := some "note" }] } ∧
      parseChars ("<TS><context><message>".toList ++
        "<source>a<byte value='x41'><byte value='x42'/></byte>c</source>".toList ++
        "</message></context></TS>".toList) =
        .ok { contexts := [{ messages := [{ source := "aAB" }] }] } ∧
      parseChars ("<TS><context><message><translation>".toList ++
        "<lengthvariant>a</lengthvariant><numerusform>b</numerusform>".toList ++
        "</translation></message></context></TS>".toList) =
        .ok { contexts := [{ messages := [{ target := .plural ["a"] }] }] } := by
  decide +kernel

end Catalog

end MessageCatalog
