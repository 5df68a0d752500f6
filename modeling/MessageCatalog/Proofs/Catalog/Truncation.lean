import MessageCatalog.Proofs.Catalog.Events
import MessageCatalog.Proofs.Catalog.RoundTrip

/-!
# Catalog files that are cut short

A catalog file that lacks more than its last line break is not read: no cut leaves a catalog with
fewer messages. Only the closing tag of the root closes a catalog, and nothing that follows opens it
again (`Assembly.kept_closed`). The pieces of the beginning of a text are the first ones of the
text, so a reading that ends in front of that tag ends with the root open, and is refused
(`exists_fault_of_open`). Bytes that end inside a character are no text.
-/

namespace MessageCatalog

open Markup

/-! ## The root closes once -/

namespace Assembly

/-- An element that opens leaves the root as it is. -/
theorem Opens.closed {a b : Assembly} (h : a.Opens b) : b.closed = a.closed := by
  cases h <;> rfl

section Closing
variable (a : Assembly) (field : Field) (text : String)

theorem closed_setInContext : (a.setInContext field text).closed = a.closed := by
  unfold setInContext
  cases a.context with
  | none => rfl
  | some c => cases field <;> rfl

theorem closed_setInMessage : (a.setInMessage field text).closed = a.closed := by
  rw [setInMessage_eq]

theorem closed_closeField : (a.closeField field).closed = a.closed := by
  cases field with
  | variant | form => rfl
  | contextName | contextComment => exact closed_setInContext ..
  | _ => exact closed_setInMessage ..

theorem closed_closeMessage : a.closeMessage.closed = a.closed := by
  unfold closeMessage
  cases a.message <;> rfl

theorem closed_closeContext : a.closeContext.closed = a.closed := by
  unfold closeContext
  cases a.context <;> rfl

/-- An element that closes does not open the root again. -/
theorem closed_closeTag {a : Assembly} (h : a.closed = true) (name : List Char) :
    (a.closeTag name).closed = true := by
  unfold closeTag
  dsimp only
  split
  · exact h
  split
  · exact h
  split
  · rw [closed_closeField, h]
  split
  · rw [closed_closeMessage, h]
  split
  · rw [closed_closeContext, h]
  split
  · rfl
  · exact h

end Closing

theorem closed_addText (a : Assembly) (s : List Char) : (a.addText s).closed = a.closed := by
  unfold addText
  split
  · rfl
  · rfl

/-- No event opens the root again. -/
theorem kept_closed : Kept (·.closed = true) where
  opens h ho := ho.closed.trans h
  closeTag := closed_closeTag
  addText h s := (closed_addText _ s).trans h

/-- What is assembled while the root is open is no catalog. -/
theorem finish_of_open {a : Assembly} (h : a.closed = false) :
    ∃ fault, a.finish = .error fault := by
  unfold finish
  cases a.catalog with
  | none => exact ⟨_, rfl⟩
  | some c => exact ⟨_, if_neg (by simp [h])⟩

end Assembly

/-! ## Readings that end early -/

namespace Reading
variable {r r' : Reading}

/-- A run of text leaves the root as it is. -/
theorem closed_take_text {raw : List Char} (ht : r.take (.text raw) = .ok r') :
    r'.assembly.closed = r.assembly.closed := by
  obtain ⟨s, hs⟩ := unescape_of_take_text ht
  rw [take_text hs] at ht
  cases ht
  exact Assembly.closed_addText ..

/-- A text that is read to its end has its complete pieces read, and a run of text behind them
leaves the root as it is. -/
theorem closed_runAll {k : Cutting} (h : r.runAll k = .ok r') :
    ∃ q, r.run k.pieces.reverse = .ok q ∧ r'.assembly.closed = q.assembly.closed := by
  obtain ⟨hm, h⟩ := runAll_eq_ok_iff.1 h
  obtain ⟨mode, held, pieces⟩ := k
  cases hm
  obtain ⟨q, hs, ht⟩ := run_finished_iff.1 h
  exact ⟨q, hs, closed_take_text ht⟩

end Reading

/-- The beginning of a text is refused when the root is still open behind the complete pieces of the
text. -/
theorem exists_fault_of_open {s t : List Char} {r : Reading} (hs : dropByteOrderMark s = s)
    (hr : Reading.run {} (cut (s ++ t)).pieces.reverse = .ok r) (ho : r.assembly.closed = false) :
    ∃ fault, Catalog.parseChars s = .error fault := by
  rw [Catalog.parseChars, hs]
  cases hq : Reading.runAll {} (cut s) with
  | error fault => exact ⟨_, rfl⟩
  | ok q =>
    obtain ⟨q', hq', hc⟩ := Reading.closed_runAll hq
    -- The pieces of the beginning come first, and the others do not open the root again.
    obtain ⟨more, hm⟩ := pieces_cut_append s t
    rw [← hm, List.reverse_append] at hr
    obtain ⟨q'', hs', hmore⟩ := Reading.run_append_eq_ok hr
    rw [hq', Except.ok.injEq] at hs'
    subst hs'
    have hopen : q'.assembly.closed = false := by
      cases h : q'.assembly.closed with
      | false => rfl
      | true => exact absurd (Assembly.kept_closed.run hmore h) (by simp [ho])
    exact Assembly.finish_of_open (hc.trans hopen)

/-! ## Written catalogs -/

namespace Catalog

open Assembly

/-- What stands between the tags of the root. -/
def contentChars (c : Catalog) : List Char :=
  '\n' :: (c.contexts.flatMap Printing.context).flatMap (· ++ ['\n'])

/-- The file of a catalog as far as the closing tag of its root. -/
def openChars (c : Catalog) : List Char :=
  preamble.flatMap (· ++ ['\n']) ++
    '<' :: ("TS".toList ++ writeAttributes (rootAttributes c) ++ '>' :: c.contentChars)

theorem printChars_eq_openChars (c : Catalog) :
    c.printChars = c.openChars ++ "</TS>\n".toList := by
  rw [printChars, printing_catalog_eq, openChars, contentChars]
  simp [List.flatMap_append]

theorem dropByteOrderMark_take (c : Catalog) (n : Nat) :
    dropByteOrderMark (c.printChars.take n) = c.printChars.take n := by
  obtain ⟨s, hs⟩ := c.printChars_eq
  rw [hs]
  cases n <;> rfl

/-- What the content of the root does. -/
theorem reads_contentChars (c : Catalog) :
    Reads c.contentChars (inRoot { c with contexts := [] } {})
      (inRoot { c with contexts := [] } (c.contexts.foldl takeContext {})) := by
  have hbreak := reads_blanks (s := ['\n']) (by simp) (inRoot { c with contexts := [] } {})
  rw [addText_of_field_eq_none rfl] at hbreak
  exact hbreak.append (readsLines_contexts c.contexts)

/-- The last line break does not matter. -/
theorem parseChars_dropLast (c : Catalog) : parseChars c.printChars.dropLast = .ok c.shaped := by
  have hroot := Reads.element (isTag_root c) (openTag_root c) c.reads_contentChars
    (closeTag_root _ _)
  have hread := Reads.append readsLines_preamble hroot
  have hchars : c.printChars.dropLast = preamble.flatMap (· ++ ['\n']) ++ '<' :: ("TS".toList ++
      writeAttributes (rootAttributes c) ++ '>' :: (c.contentChars ++ '<' :: '/' ::
        ("TS".toList ++ ['>']))) := by
    have hlast : c.printChars = c.openChars ++ "</TS>".toList ++ ['\n'] := by
      rw [printChars_eq_openChars]
      simp
    rw [hlast, List.dropLast_concat, openChars]
    simp
  rw [← hchars] at hread
  have hm : dropByteOrderMark c.printChars.dropLast = c.printChars.dropLast := by
    rw [List.dropLast_eq_take, dropByteOrderMark_take]
  rw [parseChars_of_reads hread hm, finish_written]

/-- A closing tag that is cut ends the run of text in front of it. -/
theorem pieces_cut_closing {s : List Char} (h : (cut s).mode = .content) :
    (cut (s ++ "</TS".toList)).pieces.reverse = (cut s).finished := by
  rw [cut_append]
  generalize cut s = k at h
  obtain ⟨mode, held, pieces⟩ := k
  subst h
  rfl

/-- In front of the closing tag of a catalog its root is open. -/
theorem run_openChars (c : Catalog) : ∃ r : Reading,
    Reading.run {} (cut (c.openChars ++ "</TS".toList)).pieces.reverse = .ok r ∧
      r.assembly.closed = false := by
  have htag := isTag_root c
  obtain ⟨ps, hps, hpsource, hprun⟩ := readsLines_preamble
  obtain ⟨qs, hqs, hqsource, hqrun⟩ := c.reads_contentChars
  obtain ⟨place, hprun⟩ := hprun 0 []
  have hopen := htag.take_opening (openTag_root c) place []
  obtain ⟨place', hqrun⟩ := hqrun _ ["TS".toList]
  -- The pieces of the preamble, the tag of the root, and the pieces of the content.
  have hwhole : ∀ p ∈ ps ++ .tag (writtenTag "TS" (rootAttributes c)).inside :: qs, p.IsWhole := by
    intro p hp
    simp only [List.mem_append, List.mem_cons] at hp
    rcases hp with hp | rfl | hp
    · exact hps p hp
    · exact htag.isWhole
    · exact hqs p hp
  have hsource : (ps ++ .tag (writtenTag "TS" (rootAttributes c)).inside :: qs).flatMap
      Piece.source = c.openChars := by
    simp [hpsource, hqsource, openChars, Piece.source, writtenTag]
  have hrun : Reading.run {}
      (.text [] :: (ps ++ .tag (writtenTag "TS" (rootAttributes c)).inside :: qs)) =
        .ok ⟨place', ["TS".toList],
          inRoot { c with contexts := [] } (c.contexts.foldl takeContext {})⟩ := by
    rw [Reading.run, Reading.take_text_nil]
    refine (Reading.run_append hprun _).trans ?_
    rw [Reading.run, hopen]
    exact hqrun
  obtain ⟨hm, hf⟩ := cut_source hwhole
  rw [hsource] at hm hf
  rw [pieces_cut_closing hm, hf]
  exact ⟨_, Reading.run_joined hrun, rfl⟩

/-- A catalog that lacks more than its last line break is refused. -/
theorem parseChars_take (c : Catalog) {n : Nat} (h : n + 1 < c.printChars.length) :
    ∃ fault, parseChars (c.printChars.take n) = .error fault := by
  obtain ⟨r, hr, ho⟩ := c.run_openChars
  have hchars : c.printChars = c.openChars ++ "</TS".toList ++ ['>', '\n'] := by
    rw [printChars_eq_openChars]
    simp
  have hn : n ≤ (c.openChars ++ "</TS".toList).length := by
    rw [hchars, List.length_append] at h
    simp only [List.length_cons, List.length_nil] at h
    omega
  have ht : c.printChars.take n = (c.openChars ++ "</TS".toList).take n := by
    rw [hchars, List.take_append_of_le_length hn]
  rw [← List.take_append_drop n (c.openChars ++ "</TS".toList), ← ht] at hr
  exact exists_fault_of_open (c.dropByteOrderMark_take n) hr ho

end Catalog

/-! ## Written bytes -/

/-- The label of a short text is looked for in all of it. -/
theorem declaredLabel?_encode {s : List Char}
    (h : (Encoding.Utf8.encode s).length ≤ Encoding.declarationReach) :
    Encoding.declaredLabel? (Encoding.Utf8.encode s) =
      (Encoding.after? "<?xml".toList (Text.trimStart s)).bind fun s =>
        (Encoding.lastLabel? 'l' s).bind fun label => some (String.ofList label) := by
  have hd : Encoding.Utf8.decodeLossy (Encoding.Utf8.encode s) = s := by
    have hs := Encoding.Utf8.decodeLossy_encode s []
    rwa [List.append_nil, Encoding.Utf8.decodeLossy_nil, List.append_nil] at hs
  rw [Encoding.declaredLabel?, List.take_of_length_le h, hd]
  rfl

/-- The beginning of a declaration declares UTF-8 or nothing. -/
theorem declaredLabel?_take_declaration {n : Nat} (h : n < declaration.length) :
    Encoding.declaredLabel? (Encoding.Utf8.encode (declaration.take n)) = none ∨
      Encoding.declaredLabel? (Encoding.Utf8.encode (declaration.take n)) = some "utf-8" := by
  have hl : (Encoding.Utf8.encode (declaration.take n)).length ≤ Encoding.declarationReach := by
    revert n
    decide
  rw [declaredLabel?_encode hl]
  clear hl
  revert n
  decide

theorem take_encode_declaration {n : Nat} (h : n < declaration.length) (s : List Char) :
    (Encoding.Utf8.encode (declaration ++ s)).take n =
      Encoding.Utf8.encode (declaration.take n) := by
  have hd : ∀ n < declaration.length, (Encoding.Utf8.encode declaration).take n =
      Encoding.Utf8.encode (declaration.take n) := by
    decide
  have hl : n ≤ (Encoding.Utf8.encode declaration).length := Nat.le_of_lt h
  rw [Encoding.Utf8.encode_append, List.take_append_of_le_length hl, hd n h]

/-- The beginning of a written catalog is read as UTF-8, wherever it is cut. -/
theorem decode_take_declaration (s : List Char) (n : Nat) :
    decode ((Encoding.Utf8.encode (declaration ++ s)).take n) =
      (Encoding.Utf8.decode ((Encoding.Utf8.encode (declaration ++ s)).take n)).mapError
        .notUtf8 := by
  have hm : Encoding.ofByteOrderMark? ((Encoding.Utf8.encode (declaration ++ s)).take n) =
      none := by
    cases n <;> rfl
  refine decode_eq_decodeUtf8 hm ?_
  by_cases h : n < declaration.length
  · rw [take_encode_declaration h]
    exact declaredLabel?_take_declaration h
  · -- The declaration is whole.
    have hd : (Encoding.Utf8.encode declaration).take n = Encoding.Utf8.encode declaration :=
      List.take_of_length_le (Nat.not_lt.1 h)
    right
    rw [Encoding.Utf8.encode_append, List.take_append, hd]
    exact declaredLabel?_declaration _

namespace Catalog

theorem decode_take_printBytes (c : Catalog) (n : Nat) :
    decode (c.printBytes.take n) =
      (Encoding.Utf8.decode (c.printBytes.take n)).mapError .notUtf8 := by
  obtain ⟨s, hs⟩ := c.printChars_eq
  rw [printBytes, hs]
  exact decode_take_declaration s n

theorem parseBytes_take_of_encode {c : Catalog} {n : Nat} {s : List Char}
    (h : c.printBytes.take n = Encoding.Utf8.encode s) :
    parseBytes (c.printBytes.take n) = parseChars s := by
  have hd : decode (c.printBytes.take n) = .ok s := by
    rw [decode_take_printBytes, h, Encoding.Utf8.decode_encode]
    rfl
  exact parseBytes_of_decode hd

theorem printBytes_eq_append (c : Catalog) :
    c.printBytes = Encoding.Utf8.encode c.printChars.dropLast ++ Encoding.Utf8.encode ['\n'] := by
  have hlast : c.printChars.dropLast ++ ['\n'] = c.printChars := by
    rw [printChars_eq_openChars, List.dropLast_append_of_ne_nil (by simp), List.append_assoc]
    rfl
  rw [← Encoding.Utf8.encode_append, hlast, printBytes]

/-- A cut that leaves more than the last byte away leaves more than the last character away. -/
theorem lt_of_take_printBytes {c : Catalog} {n k : Nat} (h : n + 1 < c.printBytes.length)
    (hk : c.printBytes.take n = Encoding.Utf8.encode (c.printChars.take k)) :
    k + 1 < c.printChars.length := by
  have hbytes := congrArg List.length c.printBytes_eq_append
  have hlength := congrArg List.length hk
  rw [List.length_append, List.dropLast_eq_take,
    show (Encoding.Utf8.encode ['\n']).length = 1 from rfl] at hbytes
  rw [List.length_take_of_le (by omega)] at hlength
  by_cases hle : c.printChars.length ≤ k + 1
  · have := Encoding.Utf8.length_encode_take_le c.printChars
      (show c.printChars.length - 1 ≤ k by omega)
    omega
  · omega

/-- A file that lacks more than its last byte is refused. -/
theorem parseBytes_take_of_lt (c : Catalog) {n : Nat} (h : n + 1 < c.printBytes.length) :
    ∃ fault, parseBytes (c.printBytes.take n) = .error fault := by
  rcases Encoding.Utf8.decode_take_encode c.printChars n with ⟨k, hk⟩ | ⟨fault, hf⟩
  · -- The cut is between two characters.
    rw [parseBytes_take_of_encode hk]
    exact c.parseChars_take (lt_of_take_printBytes h hk)
  · -- The cut is inside a character.
    rw [← printBytes] at hf
    rw [parseBytes, decode_take_printBytes, hf]
    exact ⟨_, rfl⟩

/-- A file that lacks at most its last byte, which is a line break, is read. -/
theorem parseBytes_take_of_le (c : Catalog) {n : Nat} (h : c.printBytes.length ≤ n + 1) :
    parseBytes (c.printBytes.take n) = .ok c.shaped := by
  by_cases hn : c.printBytes.length ≤ n
  · have hall : c.printBytes.take n = Encoding.Utf8.encode c.printChars :=
      List.take_of_length_le hn
    rw [parseBytes_take_of_encode hall, parseChars_printChars]
  · have hlength := congrArg List.length c.printBytes_eq_append
    rw [List.length_append, show (Encoding.Utf8.encode ['\n']).length = 1 from rfl] at hlength
    have hlast : c.printBytes.take n = Encoding.Utf8.encode c.printChars.dropLast := by
      rw [printBytes_eq_append]
      exact List.take_left' (by omega)
    rw [parseBytes_take_of_encode hlast, parseChars_dropLast]

/-- However the file of a catalog is cut, it is never taken for that of another catalog: a beginning
of the file is refused, unless it lacks nothing but the last line break, and then the whole catalog
is read. -/
theorem parseBytes_take_printBytes (c : Catalog) (n : Nat) :
    (parseBytes (c.printBytes.take n)).toOption =
      if n + 1 < c.printBytes.length then none else some c.shaped := by
  split
  · next h =>
    obtain ⟨fault, hf⟩ := c.parseBytes_take_of_lt h
    rw [hf]
    rfl
  · next h =>
    rw [c.parseBytes_take_of_le (Nat.not_lt.1 h)]
    rfl

end Catalog

end MessageCatalog
