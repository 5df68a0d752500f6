import MessageCatalog.Proofs.Catalog.Events

/-!
# Elements that are skipped

An element that is not part of the format where it stands leaves no trace, whatever it holds
(`Assembly.run_element`): while it is open only the depth of the elements in it is counted. How a
text is read on depends on the open elements and the assembly alone
(`Reading.Agree.exists_runAll_foldl`), so the text is read as if the element were not there.
-/

namespace MessageCatalog

open Markup

/-! ## Balanced content -/

/-- The event neither opens an element nor closes one, and its entities are known. -/
def Markup.Event.IsSettled : Event → Prop
  | .opening _ | .closing _ => False
  | .text raw => ∃ s, unescape raw = .ok s
  | .selfClosing _ | .verbatim _ | .aside => True

namespace Markup

/-- Pieces whose elements close in the order in which they are open. -/
inductive IsContent : List Piece → Prop
  | nil : IsContent []
  | piece {p : Piece} {e : Event} {rest : List Piece} (hw : p.IsWhole)
    (he : Event.ofPiece p = .ok e) (hs : e.IsSettled) (hr : IsContent rest) :
    IsContent (p :: rest)
  | element {first last : Piece} {tag : Tag} {inner rest : List Piece}
    (hf : first.IsWhole) (ho : Event.ofPiece first = .ok (.opening tag))
    (hi : IsContent inner)
    (hl : last.IsWhole) (hc : Event.ofPiece last = .ok (.closing tag.name))
    (hr : IsContent rest) : IsContent (first :: (inner ++ last :: rest))

/-- Pieces that are an element with all it holds. -/
inductive IsElement (tag : Tag) : List Piece → Prop
  | selfClosing {p : Piece} (hw : p.IsWhole) (he : Event.ofPiece p = .ok (.selfClosing tag)) :
    IsElement tag [p]
  | pair {first last : Piece} {inner : List Piece}
    (hf : first.IsWhole) (ho : Event.ofPiece first = .ok (.opening tag))
    (hi : IsContent inner)
    (hl : last.IsWhole) (hc : Event.ofPiece last = .ok (.closing tag.name)) :
    IsElement tag (first :: (inner ++ [last]))

theorem IsElement.isContent {tag : Tag} {ps : List Piece} (h : IsElement tag ps) :
    IsContent ps := by
  cases h with
  | selfClosing hw he => exact .piece hw he trivial .nil
  | pair hf ho hi hl hc => exact .element hf ho hi hl hc .nil

theorem IsContent.isWhole {ps : List Piece} (h : IsContent ps) : ∀ p ∈ ps, p.IsWhole := by
  induction h with
  | nil => simp
  | piece hw _ _ _ ih => simpa using ⟨hw, ih⟩
  | element hf _ _ hl _ _ ihi ihr =>
    intro p hp
    simp only [List.mem_cons, List.mem_append] at hp
    rcases hp with rfl | hp | rfl | hp
    · exact hf
    · exact ihi p hp
    · exact hl
    · exact ihr p hp

end Markup

/-! ## Elements in an element that is skipped -/

namespace Assembly
variable {a : Assembly}

theorem openTag_of_skipping (hs : 0 < a.skipDepth) (tag : Tag) :
    a.openTag tag = .ok { a with skipDepth := a.skipDepth + 1 } := by
  rw [openTag, if_pos hs]

/-- What closes in an element that is skipped is the innermost of the elements in it. -/
theorem closeTag_deeper (a : Assembly) (name : List Char) :
    closeTag { a with skipDepth := a.skipDepth + 1 } name = a := by
  rw [closeTag, if_pos (Nat.succ_pos _)]
  rfl

theorem addText_of_skipping (hs : 0 < a.skipDepth) (s : List Char) : a.addText s = a := by
  rw [addText, if_neg]
  simp [Nat.pos_iff_ne_zero.1 hs]

theorem take_of_skipping (hs : 0 < a.skipDepth) {e : Event} (he : e.IsSettled) :
    a.take e = .ok a := by
  cases e with
  | opening tag => exact he.elim
  | closing name => exact he.elim
  | selfClosing tag =>
    rw [take, openTag_of_skipping hs]
    exact congrArg Except.ok (closeTag_deeper a tag.name)
  | text raw =>
    obtain ⟨s, hu⟩ := he
    simp only [take, hu, addText_of_skipping hs]
  | verbatim content => exact congrArg Except.ok (addText_of_skipping hs content)
  | aside => rfl

end Assembly

theorem Markup.Nesting.after_of_isSettled {e : Event} (he : e.IsSettled) (nesting : Nesting) :
    nesting.after e = .ok nesting := by
  cases e with
  | opening tag => exact he.elim
  | closing name => exact he.elim
  | _ => rfl

namespace Assembly
variable {a : Assembly}

/-- In an element that is skipped, content does nothing. -/
theorem run_content (hs : 0 < a.skipDepth) {ps : List Piece} (h : IsContent ps) (place : Nat)
    (nesting : Nesting) : Reading.run ⟨place, nesting, a⟩ ps =
      .ok ⟨place + byteLength (ps.flatMap Piece.source), nesting, a⟩ := by
  induction h generalizing a place nesting with
  | nil => rfl
  | piece hw he hsettled _ ih =>
    rw [Reading.run, Reading.take_event he (Nesting.after_of_isSettled hsettled nesting)
      (take_of_skipping hs hsettled)]
    refine (ih hs _ _).trans ?_
    rw [List.flatMap_cons, byteLength_append, Nat.add_assoc]
  | element hf ho _ hl hc _ ihi ihr =>
    rw [Reading.run, Reading.take_event ho rfl (openTag_of_skipping hs _)]
    -- One level deeper stands the content of the element.
    refine (Reading.run_append (ihi (Nat.succ_pos _) _ _) _).trans ?_
    rw [Reading.run, Reading.take_event hc (Nesting.after_closing _ _)
      (congrArg Except.ok (closeTag_deeper a _))]
    refine (ihr hs _ _).trans ?_
    simp only [List.flatMap_cons, List.flatMap_append, byteLength_append, Nat.add_assoc]

/-! ## Elements that are not known -/

/-- The root is open, and no element is being skipped. -/
structure IsOpen (a : Assembly) : Prop where
  root : a.catalog.isSome = true
  notClosed : a.closed = false
  notSkipping : a.skipDepth = 0

/-- The names of the elements that are part of the format in a message. -/
def knownInMessage : Option Field → List String
  | none => ["location", "translation", "source", "oldsource", "comment", "oldcomment",
      "extracomment", "translatorcomment"]
  | some .target => ["numerusform", "lengthvariant"]
  | some .form => ["lengthvariant"]
  | some _ => []

/-- The names of the elements that are part of the format at this point. -/
def knownNames (a : Assembly) : List String :=
  (if a.field.isSome then ["byte"] else []) ++
    (if a.message.isSome then knownInMessage a.field
    else if a.context.isSome then ["name", "comment", "message"]
    else ["context", "TS"])

theorem openInContext_unknown {name : String} (hn : name ∉ ["name", "comment", "message"])
    (tag : Tag) : a.openInContext name tag = .ok a.skip := by
  simp only [List.mem_cons, List.not_mem_nil, or_false, not_or] at hn
  simp only [openInContext, hn, if_false]
  rfl

theorem openInMessage_unknown {name : String} (hn : name ∉ knownInMessage none) (m : Message)
    (tag : Tag) : a.openInMessage m name tag = .ok a.skip := by
  simp only [knownInMessage, List.mem_cons, List.not_mem_nil, or_false, not_or] at hn
  simp only [openInMessage, Field.ofMessageElement?, hn, if_false]
  rfl

theorem openInField_unknown {field : Field} {name : String}
    (hn : name ∉ knownInMessage (some field)) : a.openInField field name = a.skip := by
  unfold openInField
  cases field <;> simp_all [knownInMessage]

/-- What an element that opens does is left to what is open: none of the guards applies. -/
theorem openTag_of_isOpen (ha : a.IsOpen) {tag : Tag}
    (hbyte : ¬(String.ofList tag.name = "byte" ∧ a.field.isSome = true)) :
    a.openTag tag =
      match a.message with
      | some message =>
        match a.field with
        | some field => .ok (a.openInField field (String.ofList tag.name))
        | none => a.openInMessage message (String.ofList tag.name) tag
      | none =>
        if a.context.isSome then a.openInContext (String.ofList tag.name) tag
        else if String.ofList tag.name = "context" then
          .ok { a with context := some {}, messages := [] }
        else if String.ofList tag.name = "TS" then .error .nestedRoot
        else .ok a.skip := by
  unfold openTag
  dsimp only
  rw [if_neg (Nat.not_lt.2 (Nat.le_of_eq ha.notSkipping)), if_neg hbyte]
  rw [if_neg (by simp [Option.isNone_iff_eq_none, Option.isSome_iff_ne_none.1 ha.root])]
  exact if_neg (by simp [ha.notClosed])

/-- An element that is not part of the format begins to be skipped. -/
theorem openTag_unknown (ha : a.IsOpen) {tag : Tag} (hn : String.ofList tag.name ∉ a.knownNames) :
    a.openTag tag = .ok a.skip := by
  obtain ⟨hbyte, hn⟩ := not_or.1 (mt List.mem_append.2 hn)
  rw [openTag_of_isOpen ha fun h =>
    hbyte (by rw [if_pos h.2, h.1]; exact List.mem_singleton_self _)]
  cases hm : a.message with
  | some m =>
    rw [hm] at hn
    cases hf : a.field with
    | some field =>
      rw [hf] at hn
      exact congrArg Except.ok (openInField_unknown hn)
    | none =>
      rw [hf] at hn
      exact openInMessage_unknown hn m tag
  | none =>
    rw [hm] at hn
    dsimp only [Option.isSome_none] at hn ⊢
    split at hn
    · next h => exact absurd h Bool.false_ne_true
    split at hn
    · next hc =>
      rw [if_pos hc]
      exact openInContext_unknown hn tag
    · next hc =>
      simp only [List.mem_cons, List.not_mem_nil, or_false, not_or] at hn
      rw [if_neg hc, if_neg hn.1, if_neg hn.2]

theorem closeTag_skip (ha : a.IsOpen) (name : List Char) : a.skip.closeTag name = a := by
  have h := closeTag_deeper a name
  rwa [ha.notSkipping] at h

/-- An element that is not part of the format leaves the assembly as it is. -/
theorem run_element (ha : a.IsOpen) {tag : Tag} {element : List Piece}
    (he : IsElement tag element) (hn : String.ofList tag.name ∉ a.knownNames) (place : Nat)
    (nesting : Nesting) : Reading.run ⟨place, nesting, a⟩ element =
      .ok ⟨place + byteLength (element.flatMap Piece.source), nesting, a⟩ := by
  have hopen := openTag_unknown ha hn
  cases he with
  | selfClosing hw he =>
    refine (Reading.run_singleton (Reading.take_event he rfl (b := a) ?_)).trans ?_
    · rw [take, hopen]
      exact congrArg Except.ok (closeTag_skip ha tag.name)
    · rw [List.flatMap_singleton]
  | pair hf ho hi hl hc =>
    rw [Reading.run, Reading.take_event ho rfl hopen]
    refine (Reading.run_append (run_content (Nat.succ_pos _) hi _ _) _).trans ?_
    refine (Reading.run_singleton (Reading.take_event hc (Nesting.after_closing _ _)
      (congrArg Except.ok (closeTag_skip ha tag.name)))).trans ?_
    simp only [List.flatMap_cons, List.flatMap_append, List.flatMap_nil, byteLength_append,
      Nat.add_assoc]
    rfl

end Assembly

/-! ## Reading on -/

namespace Reading
variable {r r' r₁ r₂ : Reading} {k k₁ k₂ : Cutting}

/-- The readings have the same elements open and the same assembly, at whatever places. -/
def Agree (r₁ r₂ : Reading) : Prop :=
  r₁.nesting = r₂.nesting ∧ r₁.assembly = r₂.assembly

theorem Agree.symm (h : Agree r₁ r₂) : Agree r₂ r₁ :=
  ⟨h.1.symm, h.2.symm⟩

theorem Agree.exists_take (h : Agree r₁ r₂) {p : Piece} (ht : r₁.take p = .ok r') :
    ∃ r'', r₂.take p = .ok r'' ∧ Agree r' r'' := by
  obtain ⟨e, he, hn, ha⟩ := exists_event_of_take ht
  rw [h.1] at hn
  rw [h.2] at ha
  exact ⟨_, take_event he hn ha, rfl, rfl⟩

theorem Agree.exists_run (h : Agree r₁ r₂) {ps : List Piece} (hr : r₁.run ps = .ok r') :
    ∃ r'', r₂.run ps = .ok r'' ∧ Agree r' r'' := by
  induction ps generalizing r₁ r₂ with
  | nil =>
    cases hr
    exact ⟨r₂, rfl, h⟩
  | cons p ps ih =>
    obtain ⟨q, hq, hr⟩ := run_cons hr
    obtain ⟨q', hq', hagree⟩ := h.exists_take hq
    obtain ⟨r'', hr'', h''⟩ := ih hagree hr
    exact ⟨r'', by rw [run, hq']; exact hr'', h''⟩

/-- Of two runs of text that are read as one, the second is read behind the first. -/
theorem take_text_of_append {s t : List Char} (hs : r.take (.text s) = .ok r₁)
    (h : r.take (.text (s ++ t)) = .ok r₂) : r₁.take (.text t) = .ok r₂ := by
  obtain ⟨x, hx⟩ := unescape_of_take_text hs
  obtain ⟨z, hz⟩ := unescape_of_take_text h
  obtain ⟨y, hy⟩ := unescape_of_append hx hz
  have ht := take_text (r := r₁) hy
  rw [take_text_append hs ht] at h
  rw [ht, h]

theorem mode_foldl_text (hk : runAll {} k = .ok r) {t : List Char} (ht : '<' ∉ t) :
    (t.foldl Cutting.step k).mode = .content := by
  obtain ⟨mode, held, pieces⟩ := k
  cases (runAll_eq_ok_iff.1 hk).1
  rw [foldl_step_text ht]

/-- A run of text behind a text that has been read is taken where that text ends. -/
theorem runAll_foldl_text (hk : runAll {} k = .ok r) {t : List Char} (ht : '<' ∉ t) :
    runAll {} (t.foldl Cutting.step k) = .ok r' ↔ r.take (.text t) = .ok r' := by
  obtain ⟨hm, hk⟩ := runAll_eq_ok_iff.1 hk
  obtain ⟨mode, held, pieces⟩ := k
  cases hm
  obtain ⟨q, hq, htext⟩ := run_finished_iff.1 hk
  rw [foldl_step_text ht, runAll_eq_ok_iff, run_finished_iff, List.reverse_append,
    List.reverse_reverse]
  refine ⟨fun ⟨_, q', hq', h⟩ => ?_, fun h => ⟨rfl, q, hq, take_text_append htext h⟩⟩
  rw [hq, Except.ok.injEq] at hq'
  subst hq'
  exact take_text_of_append htext h

/-- From a bracket on, a text is cut as if it stood alone. -/
theorem runAll_foldl_bracket (hm : k.mode = .content) (s : List Char) :
    runAll {} (s.foldl Cutting.step (k.step '<')) = .ok r' ↔
      ∃ q, runAll {} k = .ok q ∧ q.runAll (s.foldl Cutting.step ⟨.bracket, [], []⟩) = .ok r' := by
  have hcut : s.foldl Cutting.step (k.step '<') =
      (s.foldl Cutting.step ⟨.bracket, [], []⟩).behind k.piecesWithText := by
    rw [← Cutting.foldl_step_behind, Cutting.step, hm]
    rfl
  have hfinished : k.finished = k.piecesWithText.reverse := by rw [Cutting.finished, hm]
  simp only [runAll_eq_ok_iff, hcut, Cutting.finished_behind, ← hfinished]
  constructor
  · rintro ⟨hmode, h⟩
    obtain ⟨q, hq, h⟩ := run_append_eq_ok h
    exact ⟨q, ⟨hm, hq⟩, hmode, h⟩
  · rintro ⟨q, ⟨-, hq⟩, hmode, h⟩
    exact ⟨hmode, (run_append hq _).trans h⟩

/-- Whole pieces behind a text that has been read are taken where that text ends. -/
theorem runAll_foldl_source (hk : runAll {} k = .ok r) {ps : List Piece}
    (hw : ∀ p ∈ ps, p.IsWhole) (h : r.run ps = .ok r') :
    runAll {} ((ps.flatMap Piece.source).foldl Cutting.step k) = .ok r' := by
  obtain ⟨hm, hk⟩ := runAll_eq_ok_iff.1 hk
  obtain ⟨mode, held, pieces⟩ := k
  cases hm
  obtain ⟨q, hq, htext⟩ := run_finished_iff.1 hk
  -- The run of text at hand may go on in the first piece, so the pieces are cut with it in front.
  obtain ⟨k, hk, hm, hf⟩ := foldl_step_source hw held.reverse pieces
  rw [List.reverse_reverse] at hk
  rw [runAll_eq_ok_iff, hk, hf, run_append hq]
  exact ⟨hm, run_joined (by rw [run, htext]; exact h)⟩

/-- How a text is read on depends on the open elements and the assembly alone. -/
theorem Agree.exists_runAll_foldl (h : Agree r₁ r₂) (h₁ : runAll {} k₁ = .ok r₁)
    (h₂ : runAll {} k₂ = .ok r₂) {s : List Char}
    (hs : runAll {} (s.foldl Cutting.step k₁) = .ok r') :
    ∃ r'', runAll {} (s.foldl Cutting.step k₂) = .ok r'' ∧ Agree r' r'' := by
  -- The text up to the next bracket goes on with the run of text at hand.
  have htext : ∀ {t : List Char} {q₁ : Reading}, '<' ∉ t →
      runAll {} (t.foldl Cutting.step k₁) = .ok q₁ →
        ∃ q₂, runAll {} (t.foldl Cutting.step k₂) = .ok q₂ ∧ Agree q₁ q₂ := by
    intro t q₁ ht hq
    obtain ⟨q₂, hq₂, hagree⟩ := h.exists_take ((runAll_foldl_text h₁ ht).1 hq)
    exact ⟨q₂, (runAll_foldl_text h₂ ht).2 hq₂, hagree⟩
  by_cases hb : '<' ∈ s
  · obtain ⟨t, u, rfl, ht⟩ := List.eq_append_cons_of_mem hb
    rw [List.foldl_append, List.foldl_cons] at hs ⊢
    obtain ⟨q₁, hq₁, hs⟩ := (runAll_foldl_bracket (mode_foldl_text h₁ ht) u).1 hs
    obtain ⟨q₂, hq₂, hagree⟩ := htext ht hq₁
    obtain ⟨hm, hs⟩ := runAll_eq_ok_iff.1 hs
    obtain ⟨r'', hr, hagree⟩ := hagree.exists_run hs
    refine ⟨r'', (runAll_foldl_bracket (mode_foldl_text h₂ ht) u).2 ⟨q₂, hq₂, ?_⟩, hagree⟩
    exact runAll_eq_ok_iff.2 ⟨hm, hr⟩
  · exact htext hb hs

end Reading

/-! ## Documents -/

theorem dropByteOrderMark_append {s : List Char} (hs : s ≠ []) (t : List Char) :
    dropByteOrderMark (s ++ t) = dropByteOrderMark s ++ t := by
  cases s with
  | nil => exact absurd rfl hs
  | cons c s =>
    rw [List.cons_append, dropByteOrderMark, dropByteOrderMark]
    split <;> rfl

namespace Assembly

/-- An element that is not part of the format where it stands leaves no trace: behind it the same
elements are open and the assembly is the same, whatever the element holds, and a document is read
as if it were not there. -/
theorem skip_exact {a : Assembly} (ha : a.IsOpen) {tag : Tag} {element : List Piece}
    (he : IsElement tag element) (hn : String.ofList tag.name ∉ a.knownNames) :
    (∀ place nesting, Reading.run ⟨place, nesting, a⟩ element =
      .ok ⟨place + byteLength (element.flatMap Piece.source), nesting, a⟩) ∧
    ∀ (before behind : List Char) (place : Nat) (nesting : Nesting),
      Reading.runAll {} (cut (dropByteOrderMark before)) = .ok ⟨place, nesting, a⟩ →
        ∀ c, Catalog.parseChars (before ++ element.flatMap Piece.source ++ behind) = .ok c ↔
          Catalog.parseChars (before ++ behind) = .ok c := by
  refine ⟨run_element ha he hn, fun before behind place nesting hbefore c => ?_⟩
  have hne : before ≠ [] := by
    rintro rfl
    cases hbefore
    exact absurd ha.root Bool.false_ne_true
  have helement := Reading.runAll_foldl_source hbefore he.isContent.isWhole
    (run_element ha he hn place nesting)
  have hagree : Reading.Agree ⟨place, nesting, a⟩
      ⟨place + byteLength (element.flatMap Piece.source), nesting, a⟩ := ⟨rfl, rfl⟩
  simp only [Catalog.parseChars_eq_ok_iff, List.append_assoc,
    dropByteOrderMark_append hne, cut_append, List.foldl_append]
  constructor
  · rintro ⟨r, hr, hc⟩
    obtain ⟨r', hr', h⟩ := hagree.symm.exists_runAll_foldl helement hbefore hr
    exact ⟨r', hr', by rw [← h.2]; exact hc⟩
  · rintro ⟨r, hr, hc⟩
    obtain ⟨r', hr', h⟩ := hagree.exists_runAll_foldl hbefore helement hr
    exact ⟨r', hr', by rw [← h.2]; exact hc⟩

/-- An element stands in a source, and it holds a message and a character of its own. -/
theorem skip_exact_nested :
    Catalog.parseChars ("<TS><context><message><source>a".toList ++
        "<extra><message>&amp;<byte/></message><!-- b --></extra>".toList ++
        "c</source></message></context></TS>".toList) =
      .ok { contexts := [{ messages := [{ source := "ac" }] }] } := by
  have ha : IsOpen {
      catalog := some {}, context := some {}, message := some {}, field := some .source
      text := "a" } := ⟨rfl, rfl, rfl⟩
  have htext : '<' ∉ "&amp;".toList := by decide
  have hinner : IsContent [.text "&amp;".toList, .tag "byte/".toList] :=
    .piece htext rfl ⟨['&'], rfl⟩ (.piece rfl rfl trivial .nil)
  have hopening : Event.ofPiece (.tag "message".toList) = .ok (.opening ⟨"message".toList⟩) := rfl
  have hmessage : IsContent (.tag "message".toList ::
      (_ ++ [.tag "/message".toList, .comment "!-- b --".toList])) :=
    .element rfl hopening hinner rfl rfl (.piece rfl rfl trivial .nil)
  have he : IsElement ⟨"extra".toList⟩ (.tag "extra".toList :: (_ ++ [.tag "/extra".toList])) :=
    .pair rfl rfl hmessage rfl rfl
  refine ((skip_exact ha he ?_).2 "<TS><context><message><source>a".toList _ 31
    ["source".toList, "message".toList, "context".toList, "TS".toList] rfl _).2 rfl
  decide

end Assembly

end MessageCatalog
