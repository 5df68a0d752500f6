import MessageCatalog.Proofs.Catalog.Beginning
import MessageCatalog.Proofs.Catalog.Encodings
import MessageCatalog.Proofs.Encoding.Cuts
import MessageCatalog.Sweep.Basic

/-!
# Catalogs are told from other files

Every catalog that can be read has a front, which goes up to the name of its root (`exists_front`).
When it lies within reach and holds nothing but instructions, comments and document types that are
passed over, with blanks between them, the file is told to be a catalog (`sniff_of_parseBytes`). So
a sweep reports on it. Other text in front of the root is read without complaint, but the look at the
beginning does not pass it over.
-/

namespace MessageCatalog.Sniffing

open Markup Encoding Files

/-! ## What a file begins with -/

/-- The encoding in which a file is read, and its bytes without a byte order mark. -/
def written? (bytes : List UInt8) : Option (Encoding × List UInt8) :=
  match ofByteOrderMark? bytes with
  | some (e, body) => some (e, body)
  | none =>
    match declaredLabel? bytes with
    | none => some (.utf8, bytes)
    | some label => (ofLabel? label).map fun e => (e, bytes)

/-- The pieces in front of the first tag of a text. -/
def prologue (text : List Char) : List Piece :=
  (cut (dropByteOrderMark text)).finished.takeWhile (!·.isTag)

/-- The text up to its first tag and the first four characters of the tag, which for a root are its
name and what ends the name. -/
def upToRoot (text : List Char) : List Char :=
  (prologue text).flatMap Piece.source ++
    (((cut (dropByteOrderMark text)).finished.dropWhile (!·.isTag)).flatMap Piece.source).take 4

/-- The part of a file up to the end of the name of its root. -/
structure Front (bytes : List UInt8) where
  encoding : Encoding
  /-- The bytes without a byte order mark. -/
  body : List UInt8
  text : List Char
  /-- How many bytes of the body the part has. -/
  width : Nat
  /-- What these bytes are read as. -/
  lead : List Char
  written : written? bytes = some (encoding, body)
  decoded : encoding.decode? body = some text
  read : encoding.decode? (body.take width) = some lead
  ends : dropByteOrderMark lead = upToRoot text

namespace Front

variable {bytes : List UInt8}

/-- How many bytes of the file the part has. -/
def stop (f : Front bytes) : Nat :=
  bytes.length - f.body.length + f.width

/-- The look at the beginning reads the file in its encoding. -/
def readsAlike (f : Front bytes) : Bool :=
  f.encoding = .utf8 || (ofByteOrderMark? bytes).isSome

/-- The texts that may stand in front of the root. -/
def IsGap (f : Front bytes) (raw : List Char) : Prop :=
  if f.readsAlike then IsMarksAndBlanks raw else IsAsciiBlanks raw

/-- Nothing stands in front of the root but what is passed over. -/
structure IsPlain (f : Front bytes) : Prop where
  passed : ∀ p ∈ prologue f.text, IsPassed f.IsGap p
  /-- A byte order mark is seen in its encoding only. -/
  unmarked : f.readsAlike = false → f.lead.head? ≠ some (Char.ofNat 0xFEFF)
  /-- Between escape sequences other characters are written in bytes of ASCII. -/
  unescaped : f.encoding = .iso2022Jp → Iso2022Jp.escapeByte ∉ f.body.take f.width

end Front

/-! ## From the text to the root -/

theorem written_of_decode {bytes : List UInt8} {s : List Char} (h : decode bytes = .ok s) :
    ∃ e body, written? bytes = some (e, body) ∧ e.decode? body = some s := by
  have has : ∀ {e : Encoding} {body : List UInt8}, decode.decodeAs e body = .ok s →
      e.decode? body = some s := by
    intro e body h
    unfold decode.decodeAs at h
    split at h
    · next hd => rw [hd, Except.ok.inj h]
    · cases h
  have hutf8 : decode.decodeUtf8 bytes = .ok s → utf8.decode? bytes = some s := by
    intro h
    rw [decode.decodeUtf8] at h
    rw [decode?]
    cases hd : Utf8.decode bytes with
    | error fault => rw [hd] at h; cases h
    | ok t => rw [hd] at h; cases h; rfl
  cases hm : ofByteOrderMark? bytes with
  | some p =>
    simp only [decode, hm] at h
    exact ⟨p.1, p.2, by simp only [written?, hm], has h⟩
  | none =>
    cases hl : declaredLabel? bytes with
    | none =>
      simp only [decode, hm, hl] at h
      exact ⟨.utf8, bytes, by simp only [written?, hm, hl], hutf8 h⟩
    | some label =>
      simp only [decode, hm, hl] at h
      cases he : ofLabel? label with
      | none =>
        rw [he] at h
        cases h
      | some e =>
        rw [he] at h
        refine ⟨e, bytes, by simp only [written?, hm, hl, he, Option.map_some], ?_⟩
        cases e with
        | utf8 => exact hutf8 h
        | _ => exact has h

theorem length_of_written {bytes body : List UInt8} {e : Encoding}
    (h : written? bytes = some (e, body)) : body.length ≤ bytes.length := by
  unfold written? at h
  split at h
  · next hm =>
    cases h
    rcases ofByteOrderMark?_cases hm with ⟨rfl, -⟩ | ⟨rfl, -⟩ | ⟨rfl, -⟩ <;>
      (simp only [List.length_cons]; omega)
  · split at h
    · cases h
      exact Nat.le_refl _
    · obtain ⟨e, -, he⟩ := Option.map_eq_some_iff.1 h
      cases he
      exact Nat.le_refl _

/-- A catalog that is read begins with the pieces in front of its root and with the root. -/
theorem exists_prologue {s : List Char} {c : Catalog} (h : Catalog.parseChars s = .ok c) :
    ∃ inside rest d u,
      (cut (dropByteOrderMark s)).finished = prologue s ++ .tag inside :: rest ∧
      (Piece.tag inside).source = '<' :: 'T' :: 'S' :: d :: u ∧ endsName d = true ∧
      upToRoot s = (prologue s).flatMap Piece.source ++ ['<', 'T', 'S', d] ∧
      ∀ p ∈ prologue s, ∃ e, Event.ofPiece p = .ok e := by
  obtain ⟨before, inside, rest, hcut, ⟨d, u, hroot, hd⟩, hbefore⟩ :=
    Catalog.exists_root_of_parseChars h
  have hno : ∀ p ∈ before, (!p.isTag) = true := fun p hp => by rw [(hbefore p hp).1]; rfl
  have hprologue : prologue s = before := by
    rw [prologue, hcut, List.takeWhile_append_of_pos hno]
    exact List.append_nil before
  have hsource : (Piece.tag inside).source = '<' :: 'T' :: 'S' :: d :: u :=
    congrArg ('<' :: ·) hroot
  have hup : upToRoot s = before.flatMap Piece.source ++ ['<', 'T', 'S', d] := by
    rw [upToRoot, hprologue, hcut, List.dropWhile_append_of_pos hno]
    refine congrArg (before.flatMap Piece.source ++ ·) ?_
    show ((Piece.tag inside).source ++ _).take 4 = _
    rw [hsource]
    rfl
  rw [hprologue]
  exact ⟨inside, rest, d, u, hcut, hsource, hd, hup, fun p hp => (hbefore p hp).2⟩

/-- The text of a catalog that is read leads to its root when nothing else stands in front. -/
theorem leads_upToRoot {s : List Char} {c : Catalog} (h : Catalog.parseChars s = .ok c)
    {isText : List Char → Prop} (hp : ∀ p ∈ prologue s, IsPassed isText p) (t : List Char) :
    Leads isText (upToRoot s ++ t) := by
  obtain ⟨inside, rest, d, u, hcut, -, hd, hup, hevent⟩ := exists_prologue h
  obtain ⟨hclosed, hapart⟩ := finished_cut_sound (dropByteOrderMark s)
  rw [hcut] at hclosed hapart
  rw [← List.singleton_append, ← List.append_assoc] at hapart
  rw [hup, List.append_assoc]
  exact leads_of_pieces (fun p hp => hclosed p (List.mem_append_left _ hp)) hapart.left_of_append
    hevent hp hd

/-- The text of a catalog that is read begins with what goes up to its root. -/
theorem exists_upToRoot {s : List Char} {c : Catalog} (h : Catalog.parseChars s = .ok c) :
    ∃ up d more, upToRoot s = up ++ [d] ∧ endsName d = true ∧
      dropByteOrderMark s = up ++ d :: more := by
  obtain ⟨inside, rest, d, u, hcut, hsource, hd, hup, -⟩ := exists_prologue h
  refine ⟨(prologue s).flatMap Piece.source ++ ['<', 'T', 'S'], d,
    u ++ rest.flatMap Piece.source, ?_, hd, ?_⟩
  · rw [hup, List.append_assoc]
    rfl
  · rw [← Catalog.source_of_parseChars h, hcut, List.flatMap_append, List.flatMap_cons, hsource]
    simp

/-! ## Byte order marks that are read -/

theorem leads_mark {s : List Char} (h : Leads IsMarksAndBlanks s) :
    Leads IsMarksAndBlanks (Char.ofNat 0xFEFF :: s) := by
  have hmark : IsMarksAndBlanks [Char.ofNat 0xFEFF] :=
    ⟨[Char.ofNat 0xFEFF], [], rfl, fun c hc => List.mem_singleton.1 hc,
      fun c hc => absurd hc List.not_mem_nil⟩
  cases h with
  | root hc s => exact .text hmark (.root hc s)
  | text hraw h =>
    obtain ⟨marks, blanks, rfl, hmarks, hblanks⟩ := hraw
    rw [← List.cons_append]
    refine .text ⟨Char.ofNat 0xFEFF :: marks, blanks, rfl, fun c hc => ?_, hblanks⟩ h
    rcases List.mem_cons.1 hc with rfl | hc
    · rfl
    · exact hmarks c hc
  | markup hc ha h =>
    obtain ⟨t, rfl⟩ := exists_bracket_of_closing? hc
    exact .text hmark (.markup hc ha h)

theorem leads_of_dropByteOrderMark {lead t : List Char}
    (h : Leads IsMarksAndBlanks (dropByteOrderMark lead ++ t)) :
    Leads IsMarksAndBlanks (lead ++ t) := by
  unfold dropByteOrderMark at h
  split at h
  · next c rest =>
    split at h
    · next hc =>
      rw [hc]
      exact leads_mark h
    · exact h
  · exact h

/-- What goes on behind a byte order mark goes on behind it in a part of the text. -/
theorem exists_of_dropByteOrderMark {s up more : List Char} {d : Char}
    (h : dropByteOrderMark s = up ++ d :: more) :
    ∃ lead, s = lead ++ d :: more ∧ dropByteOrderMark (lead ++ [d]) = up ++ [d] := by
  unfold dropByteOrderMark at h
  split at h
  · next c rest =>
    split at h
    · next hc =>
      refine ⟨c :: up, by rw [h, List.cons_append], ?_⟩
      exact if_pos hc
    · next hc =>
      refine ⟨up, h, ?_⟩
      cases up with
      | nil =>
        obtain ⟨rfl, -⟩ := List.cons.inj h
        exact if_neg hc
      | cons e up =>
        obtain ⟨rfl, -⟩ := List.cons.inj h
        exact if_neg hc
  · cases up <;> cases h

theorem dropByteOrderMark_eq {s : List Char} (h : s.head? ≠ some (Char.ofNat 0xFEFF)) :
    dropByteOrderMark s = s := by
  cases s with
  | nil => rfl
  | cons c s => exact if_neg fun hc => h (congrArg some hc)

/-! ## No declaration is seen in UTF-16 -/

/-- A character of ASCII in UTF-16 has a byte that is zero. -/
theorem exists_zero_of_utf16 {order : Utf16.ByteOrder} {bytes : List UInt8} {c : Char}
    {s : List Char} (h : (utf16 order).decode? bytes = some (c :: s)) (hc : c.toNat < 0x80) :
    ∃ a b rest, bytes = a :: b :: rest ∧ (a.toNat = 0 ∨ a.toNat < 0x80 ∧ b.toNat = 0) := by
  have hd : Utf16.decode order bytes = some c :: s.map some := Utf16.mapM_id_eq_some_iff.1 h
  match bytes with
  | [] => cases hd
  | [a] => cases hd
  | a :: b :: rest =>
    refine ⟨a, b, rest, rfl, ?_⟩
    have hu := Utf16.unit_lt_of_decode hd hc
    cases order with
    | little =>
      simp only [Utf16.ByteOrder.unit] at hu
      exact .inr (by omega)
    | big =>
      simp only [Utf16.ByteOrder.unit] at hu
      exact .inl (by omega)

/-- A declaration that is found begins with bytes that are not zero. -/
theorem ne_zero_of_declaredLabel? {a b : UInt8} {rest : List UInt8} {label : String}
    (h : declaredLabel? (a :: b :: rest) = some label) :
    a.toNat ≠ 0 ∧ (a.toNat < 0x80 → b.toNat ≠ 0) := by
  obtain ⟨s, hs, -⟩ := Option.bind_eq_some_iff.1 h
  have hs := eq_append_of_after? hs
  -- A zero byte is a character that is no blank and not in the word.
  have hzero : ∀ {d : UInt8}, d.toNat = 0 → ascii d = '\x00' := fun hd => by rw [ascii, hd]
  have htake : (a :: b :: rest).take declarationReach = a :: b :: rest.take 198 := rfl
  rw [htake, Utf8.decodeLossy_cons] at hs
  refine ⟨fun ha => ?_, fun ha hb => ?_⟩
  · rw [Utf8.head_ascii (by omega), hzero ha] at hs
    cases hs
  · rw [Utf8.head_ascii ha] at hs
    dsimp only at hs
    rw [List.drop_zero, Utf8.decodeLossy_cons, Utf8.head_ascii (by omega), hzero hb] at hs
    dsimp only at hs
    by_cases hblank : Text.isBlank (ascii a) = true
    · rw [Text.trimStart, List.dropWhile_cons_of_pos hblank] at hs
      cases hs
    · rw [Text.trimStart, List.dropWhile_cons_of_neg hblank] at hs
      cases (List.cons.inj (List.cons.inj hs).2).1

/-- What leads to the root begins with a character of ASCII. -/
theorem exists_ascii_of_leads {s : List Char} (h : Leads IsAsciiBlanks s) :
    ∃ c t, s = c :: t ∧ c.toNat < 0x80 := by
  cases h with
  | root hc s => exact ⟨_, _, rfl, by decide⟩
  | @text raw s hraw h =>
    cases raw with
    | nil => exact ⟨_, _, rfl, by decide⟩
    | cons c raw => exact ⟨c, _, rfl, (hraw c List.mem_cons_self).2⟩
  | markup hc ha h =>
    obtain ⟨t, rfl⟩ := exists_bracket_of_closing? hc
    exact ⟨_, _, rfl, by decide⟩

/-- A file in which a declaration is found is not read in UTF-16 as what leads to the root. -/
theorem decode?_utf16_ne_of_leads {order : Utf16.ByteOrder} {bytes : List UInt8} {label : String}
    {width : Nat} {lead : List Char} (hl : declaredLabel? bytes = some label)
    (h : Leads IsAsciiBlanks lead) : (utf16 order).decode? (bytes.take width) ≠ some lead := by
  intro hr
  obtain ⟨c, t, rfl, hlow⟩ := exists_ascii_of_leads h
  obtain ⟨a, b, rest, htake, hzero⟩ := exists_zero_of_utf16 hr hlow
  rw [← List.take_append_drop width bytes, htake] at hl
  obtain ⟨ha, hb⟩ := ne_zero_of_declaredLabel? hl
  rcases hzero with hzero | ⟨hlow, hzero⟩
  · exact ha hzero
  · exact hb hlow hzero

/-! ## Catalogs are found -/

namespace Front

variable {bytes : List UInt8}

/-- The text of the front is what the file is read as. -/
theorem text_eq (f : Front bytes) {s : List Char} (h : decode bytes = .ok s) : f.text = s := by
  obtain ⟨e, body, hw, hs⟩ := written_of_decode h
  have hw := f.written.symm.trans hw
  cases hw
  exact Option.some.inj (f.decoded.symm.trans hs)

/-- Without a mark the whole file is text, in UTF-8 or in what it declares. -/
theorem of_unmarked (f : Front bytes) (hm : ofByteOrderMark? bytes = none) :
    f.body = bytes ∧ f.stop = f.width ∧ (f.encoding = .utf8 ∨
      ∃ label, declaredLabel? bytes = some label ∧ ofLabel? label = some f.encoding) := by
  have hstop : f.body = bytes → f.stop = f.width := fun hb => by
    rw [stop, hb, Nat.sub_self, Nat.zero_add]
  have hw := f.written
  rw [written?, hm] at hw
  dsimp only at hw
  split at hw
  · simp only [Option.some.injEq, Prod.mk.injEq] at hw
    exact ⟨hw.2.symm, hstop hw.2.symm, .inl hw.1.symm⟩
  · next label hl =>
    obtain ⟨e, he, hw⟩ := Option.map_eq_some_iff.1 hw
    simp only [Prod.mk.injEq] at hw
    exact ⟨hw.2.symm, hstop hw.2.symm, .inr ⟨label, hl, hw.1 ▸ he⟩⟩

theorem exists_beginning (f : Front bytes) (hreach : f.stop ≤ reach) (ha : f.readsAlike = true) :
    ∃ t, beginning bytes = f.lead ++ t := by
  cases hm : ofByteOrderMark? bytes with
  | some p =>
    obtain ⟨e, body⟩ := p
    have hw := f.written
    rw [written?, hm] at hw
    simp only [Option.some.injEq, Prod.mk.injEq] at hw
    obtain ⟨rfl, rfl⟩ := hw
    exact beginning_marked hm hreach f.read
  | none =>
    obtain ⟨hbody, hstop, -⟩ := f.of_unmarked hm
    have he : f.encoding = .utf8 := by
      rw [readsAlike, hm] at ha
      simpa using ha
    have hr := f.read
    rw [he, hbody] at hr
    exact beginning_plain hm (hstop ▸ hreach) hr

/-- A text in another encoding that leads to the root has a view that does. -/
theorem leads_beginning (f : Front bytes) (hreach : f.stop ≤ reach) (ha : f.readsAlike = false)
    (hplain : f.IsPlain) (hleads : ∀ t, Leads IsAsciiBlanks (f.lead ++ t)) :
    Leads IsAsciiBlanks (beginning bytes) := by
  simp only [readsAlike, Bool.or_eq_false_iff, decide_eq_false_iff_not, Option.isSome_eq_false_iff,
    Option.isNone_iff_eq_none] at ha
  obtain ⟨h8, hm⟩ := ha
  obtain ⟨hbody, hstop, hlabel⟩ := f.of_unmarked hm
  obtain ⟨label, hdeclared, hlabel⟩ := hlabel.resolve_left h8
  have hr := f.read
  rw [hbody] at hr
  have h16 : ∀ order, f.encoding ≠ .utf16 order := by
    intro order he
    rw [he] at hr
    have hlead := hleads []
    rw [List.append_nil] at hlead
    exact decode?_utf16_ne_of_leads hdeclared hlead hr
  have hno := hplain.unescaped
  rw [hbody] at hno
  obtain ⟨seen, t, hseen, hview⟩ := isViewOf_beginning hm (hstop ▸ hreach)
    (isViewOf_bytewise hlabel h8 h16 hno hr)
  exact ((hleads t).of_view hview).of_view hseen

/-- The look at the beginning finds the root. -/
theorem sniff_of_isPlain (f : Front bytes) {c : Catalog} (h : Catalog.parseBytes bytes = .ok c)
    (hreach : f.stop ≤ reach) (hplain : f.IsPlain) : sniff bytes = true := by
  obtain ⟨s, hs, hc⟩ := bind_eq_ok h
  rw [← f.text_eq hs] at hc
  have hgap : ∀ {isText : List Char → Prop}, f.IsGap = isText → ∀ t,
      Leads isText (upToRoot f.text ++ t) := by
    rintro isText rfl t
    exact leads_upToRoot hc hplain.passed t
  refine sniff_of_leads ?_
  cases ha : f.readsAlike with
  | true =>
    obtain ⟨t, ht⟩ := f.exists_beginning hreach ha
    rw [ht]
    refine leads_of_dropByteOrderMark ?_
    rw [f.ends]
    exact hgap (funext fun raw => if_pos ha) t
  | false =>
    have hno : f.readsAlike ≠ true := by rw [ha]; exact Bool.false_ne_true
    have hgap := fun t => hgap (funext fun raw => if_neg hno) t
    have hlead : f.lead = upToRoot f.text := by
      rw [← f.ends, dropByteOrderMark_eq (hplain.unmarked ha)]
    rw [← hlead] at hgap
    exact (f.leads_beginning hreach ha hplain hgap).mono fun raw hraw => hraw.isMarksAndBlanks

end Front

/-- Every catalog that is read has a front. -/
theorem exists_front {bytes : List UInt8} {c : Catalog} (h : Catalog.parseBytes bytes = .ok c) :
    ∃ f : Front bytes, f.stop ≤ bytes.length := by
  obtain ⟨s, hs, hc⟩ := bind_eq_ok h
  obtain ⟨e, body, hw, hd⟩ := written_of_decode hs
  obtain ⟨up, d, more, hup, hname, hdrop⟩ := exists_upToRoot hc
  obtain ⟨lead, rfl, hends⟩ := exists_of_dropByteOrderMark hdrop
  obtain ⟨n, hn⟩ := exists_take_of_decode? (isOther_of_endsName hname) hd
  refine ⟨⟨e, body, _, min n body.length, lead ++ [d], hw, hd, ?_, hends.trans hup.symm⟩, ?_⟩
  · rw [← List.take_eq_take_min, hn]
  · have hbody := length_of_written hw
    show bytes.length - body.length + min n body.length ≤ bytes.length
    omega

/-- Every catalog that is read has a front. If that lies within reach and nothing stands in front of
the root but what is passed over, the file is told to be a catalog, and a sweep reports on it. -/
theorem sniff_of_parseBytes {bytes : List UInt8} {c : Catalog}
    (h : Catalog.parseBytes bytes = .ok c) :
    (∃ f : Front bytes, f.stop ≤ bytes.length) ∧
      ∀ f : Front bytes, f.stop ≤ reach → f.IsPlain →
        sniff bytes = true ∧
          ∀ (v : Check.Validator) (directory path : FilePath)
            (files : List (FilePath × Except Refusal Bytes)), (path, .ok bytes) ∈ files →
              Sweep.Entry.ofContent v path (.ok bytes) ∈
                (Sweep.ofContents v directory files).results := by
  refine ⟨exists_front h, fun f hreach hplain => ?_⟩
  have hsniff : sniff bytes = true := f.sniff_of_isPlain h hreach hplain
  refine ⟨hsniff, fun v directory path files hmem => ?_⟩
  refine List.mem_map.2 ⟨(path, .ok bytes), List.mem_mergeSort.2 ?_, rfl⟩
  exact List.mem_filter.2 ⟨hmem, hsniff⟩

/-- A catalog behind a comment. -/
def commented : String := "<!-- Menus -->\n<TS/>"

/-- The comment, a line break and the beginning of the root. -/
def commentedFront : Front (Utf8.encode commented.toList) where
  encoding := .utf8
  body := Utf8.encode commented.toList
  text := commented.toList
  width := 19
  lead := commented.toList.take 19
  written := by decide +kernel
  decoded := by decide +kernel
  read := by decide +kernel
  ends := by decide +kernel

/-- A catalog is found behind a comment. -/
theorem sniff_of_parseBytes_commented :
    Catalog.parseBytes (Utf8.encode commented.toList) = .ok {} ∧ commentedFront.stop ≤ reach ∧
      commentedFront.IsPlain ∧ sniff (Utf8.encode commented.toList) = true := by
  have hparse : Catalog.parseBytes (Utf8.encode commented.toList) = .ok {} := by decide +kernel
  have hreach : commentedFront.stop ≤ reach := by decide +kernel
  have hplain : commentedFront.IsPlain := by
    have hpieces : prologue commentedFront.text =
        [.comment "!-- Menus --".toList, .text ['\n']] := by decide +kernel
    refine ⟨fun p hp => ?_, fun h => absurd h (by decide), fun h => absurd h (by decide)⟩
    rw [hpieces] at hp
    simp only [List.mem_cons, List.not_mem_nil, or_false] at hp
    rcases hp with rfl | rfl
    · exact ⟨by decide, by decide⟩
    · exact ⟨[], ['\n'], rfl, fun c hc => absurd hc List.not_mem_nil, List.all_eq_true.1 rfl⟩
  exact ⟨hparse, hreach, hplain,
    ((sniff_of_parseBytes hparse).2 commentedFront hreach hplain).1⟩

/-- A program that holds a catalog in a string. -/
def quoting : String := "const s = \"<TS/>\";"

/-- The text up to the root in the string. -/
def quotingFront : Front (Utf8.encode quoting.toList) where
  encoding := .utf8
  body := Utf8.encode quoting.toList
  text := quoting.toList
  width := 15
  lead := quoting.toList.take 15
  written := by decide +kernel
  decoded := by decide +kernel
  read := by decide +kernel
  ends := by decide +kernel

/-- The program can be read as a catalog, but it is told to be none. -/
theorem not_sniff_quoting :
    Catalog.parseBytes (Utf8.encode quoting.toList) = .ok {} ∧ quotingFront.stop ≤ reach ∧
      sniff (Utf8.encode quoting.toList) = false := by
  refine ⟨by decide +kernel, by decide +kernel, ?_⟩
  have hb : beginning (Utf8.encode quoting.toList) = quoting.toList := by decide +kernel
  have hc : closing? (dropBlanks quoting.toList) = none := by decide +kernel
  rw [sniff, hb, root?_eq, hc]
  decide +kernel

end MessageCatalog.Sniffing
