import MessageCatalog.Proofs.Utf16
import MessageCatalog.Proofs.Catalog.RoundTrip

/-!
# The encoding of a file does not matter

Behind a byte order mark a catalog is read as its text, whatever encoding the text itself names.
Without a mark the text in UTF-8 is read as such unless it begins with an instruction that names
another encoding (`parseBytes_of_text`). The instruction need not be an XML declaration: the name of
a style sheet's encoding is taken for that of the file.
-/

namespace MessageCatalog

namespace Encoding

/-! ## What a declaration looks like -/

/-- An equals sign stands at the start, and behind it a label in quotes, with blanks around the
sign. -/
def StartsLabel (label s : List Char) : Prop :=
  ∃ gap gap' quote quote' rest, s = gap ++ '=' :: (gap' ++ quote :: (label ++ quote' :: rest)) ∧
    (∀ c ∈ gap ++ gap', Text.isBlank c = true) ∧ isQuote quote = true ∧ isQuote quote' = true ∧
    label ≠ [] ∧ ∀ c ∈ label, isLabelChar c = true

/-- Behind blanks the text begins with `<?xml`, and in front of the first closing angle bracket the
word `encoding` gives a label. -/
def Announces (label : String) (s : List Char) : Prop :=
  ∃ blanks before c rest,
    s = blanks ++ ("<?xml".toList ++ (before ++ c :: ("encoding".toList ++ rest))) ∧
    (∀ b ∈ blanks, Text.isBlank b = true) ∧ '>' ∉ before ∧ c ≠ '>' ∧ Text.isWordPart c = false ∧
    StartsLabel label.toList rest

/-! ## What is found is there -/

theorem eq_append_of_after? {p s rest : List Char} (h : after? p s = some rest) :
    s = p ++ rest := by
  induction p generalizing s with
  | nil =>
    simp only [after?, Option.some.injEq] at h
    rw [h, List.nil_append]
  | cons a p ih =>
    cases s with
    | nil => cases h
    | cons c s =>
      simp only [after?] at h
      split at h
      · next hc => rw [ih h, hc, List.cons_append]
      · cases h

/-- A trimmed text stands behind blanks. -/
theorem exists_blanks_append (s : List Char) :
    ∃ blanks, s = blanks ++ Text.trimStart s ∧ ∀ c ∈ blanks, Text.isBlank c = true :=
  ⟨s.takeWhile Text.isBlank, List.takeWhile_append_dropWhile.symm,
    fun c hc => List.all_eq_true.1 List.all_takeWhile c hc⟩

theorem startsLabel_of_labelAfterName? {s label : List Char} (h : labelAfterName? s = some label) :
    StartsLabel label s := by
  obtain ⟨gap, hgap, hblank⟩ := exists_blanks_append s
  obtain ⟨t, ht, h⟩ := Option.bind_eq_some_iff.1 h
  obtain ⟨gap', hgap', hblank'⟩ := exists_blanks_append t
  rw [eq_append_of_after? ht, hgap'] at hgap
  have hall : ∀ c ∈ gap ++ gap', Text.isBlank c = true := fun c hc =>
    (List.mem_append.1 hc).elim (hblank c) (hblank' c)
  split at h
  · cases h
  · next quote u hu =>
    dsimp only at h
    split at h
    · cases h
    · next close rest hclose =>
      split at h
      · next hq =>
        simp only [Bool.and_eq_true, Bool.not_eq_true', List.isEmpty_eq_false_iff] at hq
        simp only [Option.some.injEq] at h
        have hu' : u = label ++ close :: rest := by
          rw [← h, ← hclose, List.takeWhile_append_dropWhile]
        refine ⟨gap, gap', quote, close, rest, ?_, hall, hq.1.1, hq.1.2, h ▸ hq.2, ?_⟩
        · rw [hgap, hu, hu']; rfl
        · rw [← h]; exact fun c hc => List.all_eq_true.1 List.all_takeWhile c hc
      · cases h

/-- The search finds a label in front of the first closing angle bracket, behind a word
`encoding`. -/
theorem of_lastLabel? {previous : Char} {s label : List Char}
    (h : lastLabel? previous s = some label) :
    ∃ before c rest, previous :: s = before ++ c :: ("encoding".toList ++ rest) ∧
      '>' ∉ (before ++ [c]).tail ∧ Text.isWordPart c = false ∧ StartsLabel label rest := by
  induction s generalizing previous with
  | nil => cases h
  | cons c s ih =>
    simp only [lastLabel?] at h
    split at h
    · cases h
    · next hc =>
      rcases Option.or_eq_some_iff.1 h with h | ⟨-, h⟩
      · obtain ⟨before, d, rest, hs, hno, hword, hlabel⟩ := ih h
        refine ⟨previous :: before, d, rest, by rw [hs]; rfl, ?_, hword, hlabel⟩
        cases before with
        | nil =>
          simp only [List.nil_append, List.cons.injEq] at hs
          simp [← hs.1, Ne.symm hc]
        | cons e before =>
          simp only [List.cons_append, List.cons.injEq] at hs
          simp only [List.cons_append, List.tail_cons, List.mem_cons, not_or] at hno ⊢
          exact ⟨fun he => hc (hs.1.trans he.symm), hno⟩
      · split at h
        · cases h
        · next hword =>
          obtain ⟨rest, hrest, hlabel⟩ := Option.bind_eq_some_iff.1 h
          refine ⟨[], previous, rest, ?_, by simp, by simpa using hword,
            startsLabel_of_labelAfterName? hlabel⟩
          rw [eq_append_of_after? hrest, List.nil_append]

/-- The label that is found stands in the first bytes. -/
theorem announces_of_declaredLabel? {bytes : List UInt8} {label : String}
    (h : declaredLabel? bytes = some label) :
    Announces label (Utf8.decodeLossy (bytes.take declarationReach)) := by
  obtain ⟨blanks, hs, hblank⟩ :=
    exists_blanks_append (Utf8.decodeLossy (bytes.take declarationReach))
  obtain ⟨t, ht, h⟩ := Option.bind_eq_some_iff.1 h
  obtain ⟨found, hfound, hlabel⟩ := Option.bind_eq_some_iff.1 h
  have hlabel : String.ofList found = label := by simpa using hlabel
  obtain ⟨before, c, rest, he, hno, hword, hstarts⟩ := of_lastLabel? hfound
  rw [eq_append_of_after? ht] at hs
  cases before with
  | nil =>
    simp only [List.nil_append, List.cons.injEq] at he
    rw [← he.1] at hword
    cases hword
  | cons d before =>
    simp only [List.cons_append, List.cons.injEq] at he
    simp only [List.cons_append, List.tail_cons, List.mem_append, List.mem_singleton, not_or] at hno
    refine ⟨blanks, before, c, rest, ?_, hblank, hno.1, Ne.symm hno.2, hword, ?_⟩
    · rw [hs, he.2]
    · rw [← hlabel, String.toList_ofList]
      exact hstarts

/-! ## Byte order marks -/

/-- A text in UTF-8 has a byte order mark only when it begins with one. -/
theorem ofByteOrderMark?_encode {s : List Char} (h : s.head? ≠ some (Char.ofNat 0xFEFF)) :
    ofByteOrderMark? (Utf8.encode s) = none := by
  cases s with
  | nil => rfl
  | cons c s =>
    obtain ⟨a, tail, hc, hh⟩ := Utf8.head_encodeChar c (Utf8.encode s)
    rw [Utf8.encode_cons, hc, List.cons_append]
    unfold ofByteOrderMark?
    split
    · next he =>
      rw [List.cons.injEq] at he
      rw [he.1, he.2] at hh
      have hm : Char.ofNat 0xFEFF = c := (Utf8.Head.char.inj hh).1
      exact absurd (congrArg some hm.symm) h
    · next he =>
      rw [List.cons.injEq] at he
      rw [he.1] at hh
      cases hh
    · next he =>
      rw [List.cons.injEq] at he
      rw [he.1] at hh
      cases hh
    · rfl

/-- The bytes of a text in UTF-16 are read as that text. -/
theorem decode?_utf16 (order : Utf16.ByteOrder) (s : List Char) :
    (utf16 order).decode? (Utf16.encode order s) = some s := by
  rw [decode?, Utf16.decode_encode, Utf16.mapM_id_eq_some_iff]

theorem decode?_utf8 (s : List Char) : utf8.decode? (Utf8.encode s) = some s := by
  rw [decode?, Utf8.decode_encode]
  rfl

end Encoding

namespace Catalog

/-! ## Reading the bytes of a text -/

/-- Behind a byte order mark a text is read as such, whatever it says about its encoding. Without a
mark a text in UTF-8 is read as such when every label that it announces in its first bytes is one of
UTF-8. -/
theorem parseBytes_of_text (t : String) :
    parseBytes (0xEF :: 0xBB :: 0xBF :: Encoding.Utf8.encode t.toList) = parse t ∧
      parseBytes (0xFF :: 0xFE :: Encoding.Utf16.encode .little t.toList) = parse t ∧
      parseBytes (0xFE :: 0xFF :: Encoding.Utf16.encode .big t.toList) = parse t ∧
      (t.toList.head? ≠ some (Char.ofNat 0xFEFF) →
        (∀ label, Encoding.Announces label (Encoding.Utf8.decodeLossy
            ((Encoding.Utf8.encode t.toList).take Encoding.declarationReach)) →
          Encoding.ofLabel? label = some .utf8) →
        parseBytes (Encoding.Utf8.encode t.toList) = parse t) := by
  refine ⟨?_, ?_, ?_, fun hm hl => ?_⟩
  · refine parseBytes_of_decode ?_
    simp only [decode, Encoding.ofByteOrderMark?, decode.decodeAs, Encoding.decode?_utf8]
  · refine parseBytes_of_decode ?_
    simp only [decode, Encoding.ofByteOrderMark?, decode.decodeAs, Encoding.decode?_utf16]
  · refine parseBytes_of_decode ?_
    simp only [decode, Encoding.ofByteOrderMark?, decode.decodeAs, Encoding.decode?_utf16]
  · refine parseBytes_of_decode ?_
    rw [decode_of_label (Encoding.ofByteOrderMark?_encode hm)
      fun label hlabel => hl label (Encoding.announces_of_declaredLabel? hlabel),
      Encoding.Utf8.decode_encode]
    rfl

/-- A text that announces nothing. -/
theorem parseBytes_of_text_plain :
    let t := "<?xml version=\"1.0\"?>\n<TS><context><name>Über</name></context></TS>"
    t.toList.head? ≠ some (Char.ofNat 0xFEFF) ∧
    (∀ label, Encoding.Announces label (Encoding.Utf8.decodeLossy
        ((Encoding.Utf8.encode t.toList).take Encoding.declarationReach)) →
      Encoding.ofLabel? label = some .utf8) ∧
    parseBytes (Encoding.Utf8.encode t.toList) = parse t := by
  intro t
  have hm : t.toList.head? ≠ some (Char.ofNat 0xFEFF) := by decide
  have hl : ∀ label, Encoding.Announces label (Encoding.Utf8.decodeLossy
        ((Encoding.Utf8.encode t.toList).take Encoding.declarationReach)) →
      Encoding.ofLabel? label = some .utf8 := by
    rintro label ⟨blanks, before, c, rest, hs, -⟩
    -- There is no `g` in the text, and so no `encoding`.
    have hg : 'g' ∉ Encoding.Utf8.decodeLossy
        ((Encoding.Utf8.encode t.toList).take Encoding.declarationReach) := by decide +kernel
    refine absurd ?_ hg
    rw [hs]
    simp
  exact ⟨hm, hl, (parseBytes_of_text t).2.2.2 hm hl⟩

/-- An instruction with the name `xml` and no longer one begins somewhere. -/
def hasDeclaration : List Char → Bool
  | [] => false
  | c :: s =>
    (match Encoding.after? "<?xml".toList (c :: s) with
      | some (d :: _) => Text.isBlank d
      | _ => false) || hasDeclaration s

/-- A catalog with a style sheet, and without a declaration. -/
def styled : String :=
  "<?xml-stylesheet href=\"ts.xsl\" encoding=\"cp850\"?><TS><context/></TS>"

/-- The encoding that is given for a style sheet is taken for that of the catalog. -/
theorem parseBytes_styled :
    styled.toList.head? ≠ some (Char.ofNat 0xFEFF) ∧ hasDeclaration styled.toList = false ∧
    parseBytes (Encoding.Utf8.encode styled.toList) ≠ parse styled := by
  have hne : (parseBytes (Encoding.Utf8.encode styled.toList)).toOption ≠
      (parse styled).toOption := by
    decide +kernel
  exact ⟨by decide, by decide +kernel, fun he => hne (congrArg Except.toOption he)⟩

end Catalog

end MessageCatalog
