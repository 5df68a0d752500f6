import MessageCatalog.Proofs.Catalog.Messages
import MessageCatalog.Proofs.Utf8

/-!
# Writing a catalog and reading it back

The file of a catalog is read back as the catalog with every target in the shape that its message
needs, whatever its texts hold. So a catalog survives being written exactly when its targets are in
shape already.
-/

namespace MessageCatalog

open Markup

namespace Assembly

section Contexts
variable {r : Catalog} {a : Assembly}

/-! ## Contexts -/

/-- The catalog takes a context. -/
def takeContext (a : Assembly) (c : Context) : Assembly :=
  { c.messages.foldl takeMessage { a with messages := [] } with contexts := c.shaped :: a.contexts }

/-- The context when its tag opens, with nothing in it yet. -/
theorem openTag_context :
    (inRoot r a).openTag (writtenTag "context" []) =
      .ok (inContext r { a with messages := [] } {}) := by
  rfl

/-- The lines between the tags of a context. -/
def contextLines (c : Context) : List (List Char) :=
  [Printing.element 4 "name" c.name] ++ Printing.element? 4 "comment" c.comment ++
    c.messages.flatMap Printing.message

theorem readsLines_contextLines (c : Context) :
    ReadsLines (contextLines c) (inContext r { a with messages := [] } {})
      (inContext r (c.messages.foldl takeMessage { a with messages := [] })
        { c with messages := [] }) := by
  have h1 : ReadsLines [Printing.element 4 "name" c.name] (inContext r { a with messages := [] } {})
      (inContext r { a with messages := [] } { name := c.name }) :=
    readsLines_contextText (.inl ⟨rfl, rfl⟩) c.name
  have h2 := h1.append (readsLines_contextComment? (c := { name := c.name }) c.comment)
  exact h2.append (readsLines_messages c.messages)

theorem printing_context_eq (c : Context) :
    Printing.context c =
      [List.replicate 0 ' ' ++ '<' :: ("context".toList ++ writeAttributes [] ++ ['>'])] ++
        contextLines c ++ [List.replicate 0 ' ' ++ '<' :: '/' :: ("context".toList ++ ['>'])] := by
  simp [Printing.context, contextLines, writeAttributes]

theorem closeTag_context (c : Context) :
    (inContext r (c.messages.foldl takeMessage { a with messages := [] })
        { c with messages := [] }).closeTag "context".toList =
      inRoot r (a.takeContext c) := by
  generalize hb : c.messages.foldl takeMessage { a with messages := [] } = b
  have hm : b.messages.reverse = c.messages.map Message.shaped := by
    rw [← hb, messages_foldl_takeMessage, List.append_nil, List.reverse_reverse]
  have hc : b.contexts = a.contexts := by
    rw [← hb, contexts_foldl_takeMessage]
  have h : (inContext r b { c with messages := [] }).closeTag "context".toList =
      { inRoot r b with contexts := { c with messages := b.messages.reverse } :: b.contexts } := rfl
  rw [h, hm, hc, takeContext, hb]
  rfl

/-- A context is read back with its targets in shape. -/
theorem readsLines_context (c : Context) :
    ReadsLines (Printing.context c) (inRoot r a) (inRoot r (a.takeContext c)) := by
  rw [printing_context_eq]
  exact ReadsLines.element (isTag_plain (by decide)) openTag_context (readsLines_contextLines c)
    (closeTag_context c) ⟨rfl, rfl, rfl, rfl⟩ 0

theorem readsLines_contexts (written : List Context) :
    ReadsLines (written.flatMap Printing.context) (inRoot r a)
      (inRoot r (written.foldl takeContext a)) := by
  induction written generalizing a with
  | nil => exact ReadsLines.nil _
  | cons c written ih =>
    rw [List.flatMap_cons, List.foldl_cons]
    exact (readsLines_context c).append ih

theorem contexts_foldl_takeContext (written : List Context) (a : Assembly) :
    (written.foldl takeContext a).contexts =
      (written.map Context.shaped).reverse ++ a.contexts := by
  induction written generalizing a with
  | nil => rfl
  | cons c written ih => simp [ih, takeContext]

end Contexts

/-! ## Catalogs -/

/-- The attributes of a catalog. -/
def rootAttributes (c : Catalog) : List Attribute :=
  optionalAttribute "version" (some c.version) ++ optionalAttribute "language" c.language ++
    optionalAttribute "sourcelanguage" c.sourceLanguage

theorem isTag_root (c : Catalog) : IsTag "TS" (rootAttributes c) := by
  refine IsTag.of_sublist ["version", "language", "sourcelanguage"] (by decide) (by decide)
    (by decide) ?_
  rw [rootAttributes, List.map_append, List.map_append]
  exact ((keys_optionalAttribute _ _).append (keys_optionalAttribute _ _)).append
    (keys_optionalAttribute _ _)

theorem openTag_root (c : Catalog) :
    openTag {} (writtenTag "TS" (rootAttributes c)) =
      .ok (inRoot { c with contexts := [] } {}) := by
  have ht := isTag_root c
  have hv : attribute? (rootAttributes c) "version" = some c.version := by
    simp [rootAttributes]
  have hl : attribute? (rootAttributes c) "language" = c.language := by
    simp [rootAttributes]
  have hs : attribute? (rootAttributes c) "sourcelanguage" = c.sourceLanguage := by
    simp [rootAttributes]
  have ho : openTag {} (writtenTag "TS" (rootAttributes c)) =
      openRoot {} "TS" (writtenTag "TS" (rootAttributes c)) := by
    unfold openTag
    rw [ht.name_eq]
    simp
  rw [ho, openRoot, if_neg (by decide), ht.attributes_eq]
  simp only [bind, Except.bind, hv, hl, hs]
  rfl

theorem closeTag_root (r : Catalog) (a : Assembly) :
    (inRoot r a).closeTag "TS".toList = { inRoot r a with closed := true } := by
  rfl

/-- The instruction and the document type in front of the root. -/
def preamble : List (List Char) :=
  ["<?xml version=\x221.0\x22 encoding=\x22utf-8\x22?>".toList, "<!DOCTYPE TS>".toList]

theorem readsLines_preamble : ReadsLines preamble {} {} := by
  have h1 : Reads "<?xml version=\x221.0\x22 encoding=\x22utf-8\x22?>".toList {} {} := by
    refine Reads.piece (e := .aside)
      (p := .instruction "?xml version=\x221.0\x22 encoding=\x22utf-8\x22?".toList) ?_ rfl ?_ rfl
    · rfl
    · exact fun _ => rfl
  have h2 : Reads "<!DOCTYPE TS>".toList {} {} := by
    refine Reads.piece (e := .aside) (p := .doctype "!DOCTYPE TS".toList) ?_ rfl ?_ rfl
    · rfl
    · exact fun _ => rfl
  exact (ReadsLines.bare h1 rfl rfl).append (ReadsLines.bare h2 rfl rfl)

theorem printing_catalog_eq (c : Catalog) :
    Printing.catalog c = preamble ++
      ([List.replicate 0 ' ' ++
          '<' :: ("TS".toList ++ writeAttributes (rootAttributes c) ++ ['>'])] ++
        c.contexts.flatMap Printing.context ++
        [List.replicate 0 ' ' ++ '<' :: '/' :: ("TS".toList ++ ['>'])]) := by
  unfold Printing.catalog preamble rootAttributes
  rw [optionalAttr_eq, optionalAttr_eq]
  simp [writeAttributes, optionalAttribute]

/-- The file of a catalog is read to its end. -/
theorem reads_printChars (c : Catalog) :
    Reads c.printChars {}
      { inRoot { c with contexts := [] } (c.contexts.foldl takeContext {}) with
        closed := true } := by
  have h := ReadsLines.element (isTag_root c) (openTag_root c) (readsLines_contexts c.contexts)
    (closeTag_root _ _) ⟨rfl, rfl, rfl, rfl⟩ 0
  unfold Catalog.printChars
  rw [printing_catalog_eq]
  exact readsLines_preamble.append h

end Assembly

/-! ## Bytes -/

/-- The XML declaration of a catalog file. -/
def declaration : List Char :=
  "<?xml version=\x221.0\x22 encoding=\x22utf-8\x22?>".toList

theorem declaredLabel?_declaration (bytes : List UInt8) :
    Encoding.declaredLabel? (Encoding.Utf8.encode declaration ++ bytes) = some "utf-8" := by
  have ht : (Encoding.Utf8.encode declaration ++ bytes).take Encoding.declarationReach =
      Encoding.Utf8.encode declaration ++ bytes.take 162 := by
    rw [List.take_append]
    rfl
  rw [Encoding.declaredLabel?, ht, Encoding.Utf8.decodeLossy_encode]
  rfl

/-- Bytes without a mark are read as UTF-8 when that is what their label names, if they have one. -/
theorem decode_of_label {bytes : List UInt8} (hm : Encoding.ofByteOrderMark? bytes = none)
    (hl : ∀ label, Encoding.declaredLabel? bytes = some label →
      Encoding.ofLabel? label = some .utf8) :
    decode bytes = (Encoding.Utf8.decode bytes).mapError .notUtf8 := by
  cases hd : Encoding.declaredLabel? bytes with
  | none => simp only [decode, hm, hd, decode.decodeUtf8]
  | some label => simp only [decode, hm, hd, hl label hd, decode.decodeUtf8]

/-- Bytes without a mark that declare UTF-8, or no encoding, are read as UTF-8. -/
theorem decode_eq_decodeUtf8 {bytes : List UInt8} (hm : Encoding.ofByteOrderMark? bytes = none)
    (hl : Encoding.declaredLabel? bytes = none ∨ Encoding.declaredLabel? bytes = some "utf-8") :
    decode bytes = (Encoding.Utf8.decode bytes).mapError .notUtf8 := by
  refine decode_of_label hm fun label hlabel => ?_
  rcases hl with hl | hl
  · rw [hl] at hlabel
    cases hlabel
  · rw [hl, Option.some.injEq] at hlabel
    subst hlabel
    decide

/-- Bytes that begin with the declaration are read as UTF-8. -/
theorem decode_declaration (s : List Char) :
    decode (Encoding.Utf8.encode (declaration ++ s)) = .ok (declaration ++ s) := by
  have hl := declaredLabel?_declaration (Encoding.Utf8.encode s)
  rw [← Encoding.Utf8.encode_append] at hl
  rw [decode_eq_decodeUtf8 rfl (.inr hl), Encoding.Utf8.decode_encode]
  rfl

namespace Catalog

theorem printChars_eq (c : Catalog) : ∃ s, c.printChars = declaration ++ s := by
  rw [printChars, Assembly.printing_catalog_eq, List.flatMap_append]
  exact ⟨_, rfl⟩

/-- Bytes are read as the text that they stand for. -/
theorem parseBytes_of_decode {bytes : List UInt8} {s : List Char} (h : decode bytes = .ok s) :
    parseBytes bytes = parseChars s := by
  rw [parseBytes, h]
  rfl

/-- The bytes of a written catalog are decoded as its characters. -/
theorem decode_printBytes (c : Catalog) : decode c.printBytes = .ok c.printChars := by
  obtain ⟨s, hs⟩ := c.printChars_eq
  rw [printBytes, hs, decode_declaration]

/-- What is assembled when a written catalog is read is the catalog in shape. -/
theorem finish_written (c : Catalog) :
    Assembly.finish
      { Assembly.inRoot { c with contexts := [] } (c.contexts.foldl Assembly.takeContext {}) with
        closed := true } = .ok c.shaped := by
  have hc : (c.contexts.foldl Assembly.takeContext {}).contexts.reverse =
      c.contexts.map Context.shaped := by
    rw [Assembly.contexts_foldl_takeContext, List.append_nil, List.reverse_reverse]
  rw [shaped, ← hc]
  rfl

/-- A written catalog is read back in shape. -/
theorem parseChars_printChars (c : Catalog) : parseChars c.printChars = .ok c.shaped := by
  have hm : dropByteOrderMark c.printChars = c.printChars := by
    obtain ⟨s, hs⟩ := c.printChars_eq
    rw [hs]
    rfl
  rw [parseChars_of_reads (Assembly.reads_printChars c) hm, finish_written]

theorem parse_print (c : Catalog) : parse c.print = .ok c.shaped := by
  rw [parse, print, String.toList_ofList, parseChars_printChars]

/-- A catalog that is written and read back is the catalog with every target in shape. It comes back
unchanged exactly when every target suits its message. -/
theorem parseBytes_printBytes (c : Catalog) :
    parseBytes c.printBytes = .ok c.shaped ∧ (parse c.print = .ok c ↔ c.IsShaped) := by
  constructor
  · simp only [parseBytes, decode_printBytes, bind, Except.bind]
    exact c.parseChars_printChars
  · rw [parse_print, Except.ok.injEq]
    exact shaped_eq_self_iff

end Catalog

end MessageCatalog
