import MessageCatalog.Catalog.Parsing
import MessageCatalog.Proofs.Markup.Attributes
import MessageCatalog.Proofs.Markup.Unescaping

/-!
# What reading some characters does

`Assembly.Reads s a b` says that the characters `s`, wherever they stand, take the assembly `a` to
`b` and leave the same elements open behind them. What follows one another is read one after the
other (`Reads.append`), and an element is read through its content (`Reads.element`), so what a
whole text does is put together from what its parts do. At the end stands what it means for parsing:
characters that take nothing to a complete assembly are parsed as its catalog
(`parseChars_of_reads`).
-/

namespace MessageCatalog

open Markup

/-! ## Faults with a place -/

section Fault
variable {ε ε' α : Type} (f : ε → ε')

@[simp] theorem mapError_ok (x : α) : (Except.ok x : Except ε α).mapError f = .ok x := rfl

@[simp] theorem mapError_error (e : ε) :
    (Except.error e : Except ε α).mapError f = .error (f e) := rfl

end Fault

/-! ## Taking pieces -/

namespace Reading

theorem run_append {r r' : Reading} {s : List Piece} (h : r.run s = .ok r') (t : List Piece) :
    r.run (s ++ t) = r'.run t := by
  induction s generalizing r with
  | nil =>
    simp only [run, Except.ok.injEq] at h
    rw [h, List.nil_append]
  | cons p s ih =>
    simp only [List.cons_append, run] at h ⊢
    cases hp : r.take p with
    | error fault => rw [hp] at h; cases h
    | ok q =>
      rw [hp] at h
      exact ih h

theorem run_singleton {r r' : Reading} {p : Piece} (h : r.take p = .ok r') :
    r.run [p] = .ok r' := by
  rw [run, h]
  rfl

/-- Taking a piece of which it is known what it says and does. -/
theorem take_event {place : Nat} {nesting nesting' : Nesting} {a b : Assembly} {p : Piece}
    {e : Event} (he : Event.ofPiece p = .ok e) (hn : nesting.after e = .ok nesting')
    (ha : a.take e = .ok b) :
    Reading.take ⟨place, nesting, a⟩ p = .ok ⟨place + byteLength p.source, nesting', b⟩ := by
  simp only [Reading.take, he, hn, ha, mapError_ok, bind, Except.bind, pure, Except.pure]

theorem take_text {r : Reading} {raw s : List Char} (h : unescape raw = .ok s) :
    r.take (.text raw) =
      .ok ⟨r.place + byteLength raw, r.nesting, r.assembly.addText s⟩ :=
  take_event (e := .text raw) rfl rfl (by simp only [Assembly.take, h])

theorem unescape_of_take_text {r r' : Reading} {raw : List Char} (h : r.take (.text raw) = .ok r') :
    ∃ s, unescape raw = .ok s := by
  cases hu : unescape raw with
  | ok s => exact ⟨s, rfl⟩
  | error fault =>
    simp [Reading.take, Event.ofPiece, Nesting.after, Assembly.take, hu, bind, Except.bind] at h

theorem addText_append (a : Assembly) (s t : List Char) :
    (a.addText s).addText t = a.addText (s ++ t) := by
  by_cases h : (a.field.isSome && a.skipDepth == 0) = true
  · simp only [Assembly.addText, h, if_true, String.append_assoc, String.ofList_append]
  · simp only [Assembly.addText, h, if_false, Bool.false_eq_true]

/-- Two runs of text do together what they do one by one. -/
theorem take_text_append {r r' r'' : Reading} {s t : List Char} (hs : r.take (.text s) = .ok r')
    (ht : r'.take (.text t) = .ok r'') : r.take (.text (s ++ t)) = .ok r'' := by
  obtain ⟨x, hx⟩ := unescape_of_take_text hs
  obtain ⟨y, hy⟩ := unescape_of_take_text ht
  rw [take_text hx, Except.ok.injEq] at hs
  subst hs
  rw [take_text hy, Except.ok.injEq] at ht
  subst ht
  rw [take_text (unescape_append hx hy), byteLength_append, addText_append, Nat.add_assoc]

theorem take_text_nil (r : Reading) : r.take (.text []) = .ok r := by
  rw [take_text unescape_nil]
  simp only [Assembly.addText, String.ofList_nil, String.append_empty, ite_self]
  rfl

theorem run_cons {r r' : Reading} {p : Piece} {ps : List Piece} (h : r.run (p :: ps) = .ok r') :
    ∃ q, r.take p = .ok q ∧ q.run ps = .ok r' := by
  rw [run] at h
  cases hp : r.take p with
  | error fault => rw [hp] at h; cases h
  | ok q => rw [hp] at h; exact ⟨q, rfl, h⟩

/-- Pieces that are read are read one part after the other. -/
theorem run_append_eq_ok {r r' : Reading} {s t : List Piece} (h : r.run (s ++ t) = .ok r') :
    ∃ q, r.run s = .ok q ∧ q.run t = .ok r' := by
  induction s generalizing r with
  | nil => exact ⟨r, rfl, h⟩
  | cons p s ih =>
    obtain ⟨q, hq, h⟩ := run_cons h
    obtain ⟨q', hs, ht⟩ := ih h
    exact ⟨q', by rw [run, hq]; exact hs, ht⟩

/-- Where a run of text is at hand, the complete pieces are taken first, and then the text. -/
theorem run_finished_iff {r r' : Reading} {held : List Char} {pieces : List Piece} :
    r.run (Cutting.finished ⟨.content, held, pieces⟩) = .ok r' ↔
      ∃ q, r.run pieces.reverse = .ok q ∧ q.take (.text held.reverse) = .ok r' := by
  unfold Cutting.finished Cutting.piecesWithText
  dsimp only
  split
  · next he =>
    rw [List.isEmpty_iff.1 he]
    simp only [List.reverse_nil, take_text_nil, Except.ok.injEq, exists_eq_right]
  · rw [List.reverse_cons]
    constructor
    · intro h
      obtain ⟨q, hq, h⟩ := run_append_eq_ok h
      obtain ⟨q', ht, he⟩ := run_cons h
      cases he
      exact ⟨q, hq, ht⟩
    · rintro ⟨q, hq, ht⟩
      rw [run_append hq]
      exact run_singleton ht

/-- Pieces do the same when the runs of text among them are joined. -/
theorem run_joined {r r' : Reading} {held : List Char} {ps : List Piece}
    (h : r.run (.text held :: ps) = .ok r') : r.run (joined held ps) = .ok r' := by
  induction ps generalizing r held with
  | nil =>
    obtain ⟨q, hq, hr⟩ := run_cons h
    rw [joined]
    split
    · next he =>
      rw [List.isEmpty_iff.1 he, take_text_nil, Except.ok.injEq] at hq
      rw [hq, hr]
    · exact h
  | cons p ps ih =>
    obtain ⟨q, hq, hr⟩ := run_cons h
    obtain ⟨q', hq', hr'⟩ := run_cons hr
    -- Markup ends the run of text at hand, and more text goes on with it.
    have markup : r.run ((if held.isEmpty then [] else [Piece.text held]) ++ p :: joined [] ps) =
        .ok r' := by
      have hj : q'.run (joined [] ps) = .ok r' := ih (by rw [run, take_text_nil]; exact hr')
      have hp : q.run (p :: joined [] ps) = .ok r' := by rw [run, hq']; exact hj
      split
      · next he =>
        rw [List.isEmpty_iff.1 he, take_text_nil, Except.ok.injEq] at hq
        rwa [List.nil_append, hq]
      · rw [List.singleton_append, run, hq]
        exact hp
    cases p with
    | text raw =>
      rw [joined]
      refine ih ?_
      rw [run, take_text_append hq hq']
      exact hr'
    | _ => exact markup

/-- A text is read to its end when it does not end within a piece and its pieces are read. -/
theorem runAll_eq_ok_iff {r r' : Reading} {k : Cutting} :
    r.runAll k = .ok r' ↔ k.mode = .content ∧ r.run k.finished = .ok r' := by
  unfold runAll
  cases hr : r.run k.finished with
  | error fault => exact ⟨nofun, nofun⟩
  | ok q =>
    obtain ⟨mode, held, pieces⟩ := k
    cases mode with
    | content => exact ⟨fun h => ⟨rfl, h⟩, fun h => h.2⟩
    | _ => exact ⟨nofun, nofun⟩

end Reading

/-! ## Reading characters -/

namespace Assembly

/-- The characters take one assembly to another, wherever they stand, and leave the same elements
open. -/
def Reads (s : List Char) (a b : Assembly) : Prop :=
  ∃ ps : List Piece, (∀ p ∈ ps, p.IsWhole) ∧ ps.flatMap Piece.source = s ∧
    ∀ place nesting, ∃ place', Reading.run ⟨place, nesting, a⟩ ps = .ok ⟨place', nesting, b⟩

namespace Reads

theorem nil (a : Assembly) : Reads [] a a :=
  ⟨[], by simp, rfl, fun place _ => ⟨place, rfl⟩⟩

theorem append {s t : List Char} {a b c : Assembly} (h1 : Reads s a b) (h2 : Reads t b c) :
    Reads (s ++ t) a c := by
  obtain ⟨ps, hw, hs, hr⟩ := h1
  obtain ⟨qs, hw', ht, hr'⟩ := h2
  refine ⟨ps ++ qs, ?_, by rw [List.flatMap_append, hs, ht], fun place nesting => ?_⟩
  · intro p hp
    rcases List.mem_append.1 hp with hp | hp
    · exact hw p hp
    · exact hw' p hp
  · obtain ⟨place', e⟩ := hr place nesting
    obtain ⟨place'', e'⟩ := hr' place' nesting
    exact ⟨place'', by rw [Reading.run_append e, e']⟩

/-- A piece that says something of no interest to the elements that are open. -/
theorem piece {p : Piece} {e : Event} {a b : Assembly} (hw : p.IsWhole)
    (he : Event.ofPiece p = .ok e) (hn : ∀ nesting : Nesting, nesting.after e = .ok nesting)
    (ha : a.take e = .ok b) : Reads p.source a b := by
  refine ⟨[p], by simpa using hw, by simp, fun place nesting => ?_⟩
  exact ⟨_, Reading.run_singleton (Reading.take_event he (hn nesting) ha)⟩

/-- A run of text. -/
theorem text {raw s : List Char} (hw : '<' ∉ raw) (h : unescape raw = .ok s) (a : Assembly) :
    Reads raw a (a.addText s) :=
  piece (p := .text raw) hw rfl (fun _ => rfl) (by simp only [take, h])

end Reads

end Assembly

/-! ## Elements -/

/-- The characters are an element with the tag and what stands in it. An element that closes at once
holds nothing. -/
inductive Markup.Encloses (tag : Tag) : List Char → List Char → Prop
  | pair {first last : Piece} {inside : List Char}
    (hfirst : first.IsWhole ∧ Event.ofPiece first = .ok (.opening tag))
    (hlast : last.IsWhole ∧ Event.ofPiece last = .ok (.closing tag.name)) :
    Encloses tag inside (first.source ++ inside ++ last.source)
  | selfClosing {p : Piece} (h : p.IsWhole ∧ Event.ofPiece p = .ok (.selfClosing tag)) :
    Encloses tag [] p.source

section Tags
variable {name : String} {attributes : List Attribute}

/-- A tag as it is written. -/
def writtenTag (name : String) (attributes : List Attribute) : Tag :=
  ⟨name.toList ++ writeAttributes attributes⟩

/-- A tag can be written: its name and its keys are words, and no key occurs twice. -/
structure IsTag (name : String) (attributes : List Attribute) : Prop where
  name : IsName name.toList
  keys : ∀ a ∈ attributes, IsName a.key.toList
  nodup : (attributes.map (·.key)).Nodup

theorem IsTag.name_eq (h : IsTag name attributes) :
    String.ofList (writtenTag name attributes).name = name := by
  rw [writtenTag, Tag.name_write h.name, String.ofList_toList]

theorem IsTag.attributes_eq (h : IsTag name attributes) :
    Assembly.attributesOf (writtenTag name attributes) = .ok attributes := by
  rw [Assembly.attributesOf, writtenTag, Tag.attributes_write h.name h.keys h.nodup]
  rfl

/-- The keys of a tag may be some of the words that it could have. -/
theorem IsTag.of_sublist (keys : List String) (hn : IsName name.toList)
    (hk : ∀ key ∈ keys, IsName key.toList) (hd : keys.Nodup)
    (hs : (attributes.map (·.key)).Sublist keys) : IsTag name attributes where
  name := hn
  keys _ ha := hk _ (hs.subset (List.mem_map_of_mem ha))
  nodup := hd.sublist hs

theorem keys_optionalAttribute (key : String) (value : Option String) :
    ((optionalAttribute key value).map (·.key)).Sublist [key] := by
  cases value <;> simp [optionalAttribute]

/-- What a tag says that does not begin with a slash. -/
theorem ofTag_eq {s : List Char} (hn : IsName name.toList) :
    Event.ofTag (name.toList ++ s) =
      if (name.toList ++ s).getLast? = some '/' then .selfClosing ⟨(name.toList ++ s).dropLast⟩
      else .opening ⟨name.toList ++ s⟩ := by
  cases hs : name.toList with
  | nil => exact absurd hs hn.1
  | cons c t =>
    have hc : c ≠ '/' := isAlphanum_ne (hn.2 c (by rw [hs]; exact List.mem_cons_self)) rfl
    unfold Event.ofTag
    split
    · next heq => simp only [List.cons_append, List.cons.injEq] at heq; exact absurd heq.1 hc
    · rfl

theorem ofTag_writtenTag (h : IsTag name attributes) :
    Event.ofTag (writtenTag name attributes).inside = .opening (writtenTag name attributes) := by
  have hl : (name.toList ++ writeAttributes attributes).getLast? ≠ some '/' := by
    rcases List.eq_nil_or_concat attributes with rfl | ⟨init, a, rfl⟩
    · intro hl
      rw [writeAttributes, List.flatMap_nil, List.append_nil] at hl
      exact isAlphanum_ne (h.name.2 _ (List.mem_of_getLast? hl)) rfl rfl
    · -- The last character is the quote behind the last value.
      have he : name.toList ++ writeAttributes (init.concat a) =
          (name.toList ++ writeAttributes init ++ ' ' :: (a.key.toList ++ "=\x22".toList ++
            escape a.value.toList)) ++ ['\x22'] := by
        simp [writeAttributes, Printing.attr]
      rw [he, List.getLast?_concat]
      decide
  rw [writtenTag, ofTag_eq h.name, if_neg hl]

theorem ofTag_writtenTag_slash (h : IsTag name attributes) :
    Event.ofTag ((writtenTag name attributes).inside ++ ['/']) =
      .selfClosing (writtenTag name attributes) := by
  rw [writtenTag, List.append_assoc, ofTag_eq h.name, ← List.append_assoc, List.getLast?_concat,
    List.dropLast_concat, if_pos rfl]

/-- A written tag is whole. -/
theorem IsTag.isWhole (h : IsTag name attributes) :
    (Piece.tag (writtenTag name attributes).inside).IsWhole := by
  have hq : quoteAfter? none [] = some none := rfl
  have ht := isWhole_tag_attributes h.name h.keys hq
  rwa [List.append_nil] at ht

/-- A written tag opens its element. -/
theorem IsTag.take_opening (h : IsTag name attributes) {a b : Assembly}
    (hopen : a.openTag (writtenTag name attributes) = .ok b) (place : Nat) (nesting : Nesting) :
    Reading.take ⟨place, nesting, a⟩ (.tag (writtenTag name attributes).inside) =
      .ok ⟨place + byteLength (Piece.tag (writtenTag name attributes).inside).source,
        name.toList :: nesting, b⟩ := by
  have hname : (writtenTag name attributes).name = name.toList := Tag.name_write h.name attributes
  rw [← hname]
  exact Reading.take_event (congrArg Except.ok (ofTag_writtenTag h)) rfl hopen

theorem closingName_eq {s : List Char} (h : IsName s) : closingName s = s := by
  obtain ⟨hne, ha⟩ := h
  have hd : s.reverse.dropWhile isSpace = s.reverse := by
    cases hs : s.reverse with
    | nil => rfl
    | cons c t =>
      have hc : c ∈ s := by rw [← List.mem_reverse, hs]; exact List.mem_cons_self
      simp [isSpace_eq_false (ha c hc)]
  rw [closingName, hd, List.reverse_reverse, ite_self]

/-- An element as it is written. -/
theorem IsTag.encloses {name : String} {attributes : List Attribute} (h : IsTag name attributes)
    (inside : List Char) : Encloses (writtenTag name attributes) inside
      ('<' :: (name.toList ++ writeAttributes attributes ++ ['>']) ++ inside ++
        '<' :: '/' :: (name.toList ++ ['>'])) := by
  have hlast : Event.ofPiece (.tag ('/' :: name.toList)) =
      .ok (.closing (writtenTag name attributes).name) := by
    rw [writtenTag, Tag.name_write h.name, Event.ofPiece, Event.ofTag, closingName_eq h.name]
  exact .pair ⟨h.isWhole, congrArg Except.ok (ofTag_writtenTag h)⟩ ⟨isWhole_closing h.name, hlast⟩

end Tags

theorem Markup.Nesting.after_closing (name : List Char) (nesting : Nesting) :
    Nesting.after (name :: nesting) (.closing name) = .ok nesting :=
  if_pos rfl

namespace Assembly

variable {name : String} {attributes : List Attribute} {tag : Tag} {a b c d : Assembly}
  {s inside : List Char}

/-- Only empty runs of text are written as nothing. -/
theorem Reads.eq_of_nil (h : Reads [] a b) : a = b := by
  obtain ⟨ps, -, hsource, hread⟩ := h
  obtain ⟨place, hrun⟩ := hread 0 []
  clear hread
  generalize 0 = start at hrun
  induction ps generalizing start with
  | nil =>
    cases hrun
    rfl
  | cons p ps ih =>
    obtain ⟨hp, hps⟩ := List.append_eq_nil_iff.1 (List.flatMap_cons ▸ hsource)
    cases p with
    | text raw =>
      obtain rfl : raw = [] := hp
      rw [Reading.run, Reading.take_text_nil] at hrun
      exact ih hps start hrun
    | _ => simp [Piece.source] at hp

/-- An element is read through what stands in it. -/
theorem Reads.encloses (h : Encloses tag inside s) (hopen : a.openTag tag = .ok b)
    (hinside : Reads inside b c) (hclose : c.closeTag tag.name = d) : Reads s a d := by
  cases h with
  | selfClosing h =>
    obtain rfl := hinside.eq_of_nil
    refine Reads.piece h.1 h.2 (fun _ => rfl) ?_
    rw [take, hopen, ← hclose]
    rfl
  | @pair first last _ hfirst hlast =>
    obtain ⟨ps, hwhole, hsource, hrun⟩ := hinside
    refine ⟨first :: (ps ++ [last]), ?_, by simp [hsource], fun place nesting => ?_⟩
    · simp only [List.mem_cons, List.mem_append, List.not_mem_nil, or_false]
      rintro p (rfl | hp | rfl)
      · exact hfirst.1
      · exact hwhole p hp
      · exact hlast.1
    · obtain ⟨place', hrun⟩ := hrun (place + byteLength first.source) (tag.name :: nesting)
      refine ⟨place' + byteLength last.source, ?_⟩
      rw [Reading.run, Reading.take_event hfirst.2 rfl hopen]
      refine (Reading.run_append hrun [last]).trans (Reading.run_singleton ?_)
      exact Reading.take_event hlast.2 (Nesting.after_closing tag.name nesting)
        (congrArg Except.ok hclose)

/-- A written element is read through its content. -/
theorem Reads.element (h : IsTag name attributes)
    (hopen : a.openTag (writtenTag name attributes) = .ok b) (hs : Reads s b c)
    (hclose : c.closeTag name.toList = d) :
    Reads ('<' :: (name.toList ++ writeAttributes attributes ++ '>' :: (s ++ '<' :: '/' ::
      (name.toList ++ ['>'])))) a d := by
  have hname : (writtenTag name attributes).name = name.toList := Tag.name_write h.name attributes
  have hr := Reads.encloses (h.encloses s) hopen hs (by rw [hname, hclose])
  simpa using hr

/-- A written element that is closed at once. -/
theorem Reads.selfClosing (h : IsTag name attributes)
    (hopen : a.openTag (writtenTag name attributes) = .ok b) (hclose : b.closeTag name.toList = c) :
    Reads ('<' :: (name.toList ++ writeAttributes attributes ++ ['/', '>'])) a c := by
  have hname : (writtenTag name attributes).name = name.toList := Tag.name_write h.name attributes
  have hp : (Piece.tag ((writtenTag name attributes).inside ++ ['/'])).IsWhole ∧
      Event.ofPiece (.tag ((writtenTag name attributes).inside ++ ['/'])) =
        .ok (.selfClosing (writtenTag name attributes)) :=
    ⟨isWhole_tag_attributes h.name h.keys rfl, congrArg Except.ok (ofTag_writtenTag_slash h)⟩
  have hr := Reads.encloses (.selfClosing hp) hopen (Reads.nil b) (by rw [hname, hclose])
  simpa [Piece.source, writtenTag] using hr

end Assembly

/-! ## Parsing -/

/-- A document is parsed when it is read to its end and a whole catalog is assembled then. -/
theorem Catalog.parseChars_eq_ok_iff {s : List Char} {c : Catalog} :
    parseChars s = .ok c ↔
      ∃ r, Reading.runAll {} (cut (dropByteOrderMark s)) = .ok r ∧ r.assembly.finish = .ok c := by
  unfold parseChars
  cases Reading.runAll {} (cut (dropByteOrderMark s)) with
  | error fault => simp
  | ok r => simp

/-- Characters that take nothing to an assembly are parsed as what is assembled. -/
theorem parseChars_of_reads {s : List Char} {a : Assembly} (h : Assembly.Reads s {} a)
    (hs : dropByteOrderMark s = s) : Catalog.parseChars s = a.finish := by
  obtain ⟨ps, hw, rfl, hr⟩ := h
  obtain ⟨hm, hf⟩ := cut_source hw
  obtain ⟨place, e⟩ := hr 0 []
  have hj : Reading.run {} (joined [] ps) = .ok ⟨place, [], a⟩ := by
    refine Reading.run_joined ?_
    rw [Reading.run, Reading.take_text_nil]
    exact e
  rw [Catalog.parseChars, hs, Reading.runAll, hf, hj]
  simp only [Cutting.fault?, hm]
  rfl

end MessageCatalog
