import MessageCatalog.Proofs.Catalog.Events
import MessageCatalog.Proofs.Markup.Endings

/-!
# The root of a catalog that is read

In front of the first tag of a document nothing happens to the catalog, and the first tag has to
open its root. So a document that is read goes through with pieces other than tags and then has a
tag that begins with `TS` and the end of that name (`exists_root_of_parseChars`).
-/

namespace MessageCatalog

open Markup

/-- The piece is a tag. -/
def Markup.Piece.isTag : Piece → Bool
  | .tag _ => true
  | _ => false

/-- A character that ends the name of a tag. -/
def Markup.endsName (c : Char) : Bool :=
  isSpace c || c == '/' || c == '>'

/-- With its closing bracket the tag begins with the name of the root and the end of that name. -/
def Markup.NamesRoot (inside : List Char) : Prop :=
  ∃ c t, inside ++ ['>'] = 'T' :: 'S' :: c :: t ∧ endsName c = true

/-! ## The first tag -/

/-- A name is followed by a blank or by nothing. -/
theorem Markup.Tag.inside_eq {tag : Tag} {name : List Char} (h : tag.name = name) :
    tag.inside = name ∨ ∃ c t, tag.inside = name ++ c :: t ∧ isSpace c = true := by
  have he : tag.inside = name ++ tag.inside.dropWhile (!isSpace ·) := by
    rw [← h, Tag.name, List.takeWhile_append_dropWhile]
  cases hd : tag.inside.dropWhile (!isSpace ·) with
  | nil => exact .inl (by rw [he, hd, List.append_nil])
  | cons c t =>
    have hc : (!isSpace c) = false := by
      have h := List.head?_dropWhile_not (!isSpace ·) tag.inside
      rw [hd] at h
      simpa using h
    exact .inr ⟨c, t, by rw [← hd, ← he], by simpa using hc⟩

theorem name_of_openTag {tag : Tag} {a : Assembly} (h : Assembly.openTag {} tag = .ok a) :
    tag.name = ['T', 'S'] := by
  have hr : Assembly.openRoot {} (String.ofList tag.name) tag = .ok a := by
    simpa [Assembly.openTag] using h
  unfold Assembly.openRoot at hr
  split at hr
  · cases hr
  · next hn =>
    rw [← String.toList_ofList (l := tag.name), Decidable.not_not.1 hn]
    rfl

/-- A tag closes an element, opens and closes one at once, or opens one. -/
theorem Markup.Event.ofTag_cases (inside : List Char) :
    (∃ name, ofTag inside = .closing name) ∨
      (∃ s, inside = s ++ ['/'] ∧ ofTag inside = .selfClosing ⟨s⟩) ∨
      ofTag inside = .opening ⟨inside⟩ := by
  unfold ofTag
  split
  · exact .inl ⟨_, rfl⟩
  · split
    · next hlast =>
      obtain ⟨s, rfl⟩ := List.getLast?_eq_some_iff.1 hlast
      exact .inr (.inl ⟨s, rfl, by rw [List.dropLast_concat]⟩)
    · exact .inr (.inr rfl)

/-- The name of the root is followed by what ends it, whatever else stands in the tag. -/
theorem namesRoot_append {s t : List Char} {c : Char} (hs : Tag.name ⟨s⟩ = ['T', 'S'])
    (hc : endsName c = true) :
    ∃ d u, s ++ c :: t = 'T' :: 'S' :: d :: u ∧ endsName d = true := by
  rcases Tag.inside_eq hs with hs | ⟨d, u, hs, hd⟩
  · have hs : s = ['T', 'S'] := hs
    exact ⟨c, t, by rw [hs]; rfl, hc⟩
  · have hs : s = ['T', 'S'] ++ d :: u := hs
    exact ⟨d, u ++ c :: t, by rw [hs]; rfl, by rw [endsName, hd]; rfl⟩

/-- A tag that is taken where nothing is open yet begins the root. -/
theorem namesRoot_of_event {inside : List Char} {nesting : Nesting} {a : Assembly}
    (hn : Nesting.after [] (Event.ofTag inside) = .ok nesting)
    (ha : Assembly.take {} (Event.ofTag inside) = .ok a) : NamesRoot inside := by
  rcases Event.ofTag_cases inside with ⟨name, he⟩ | ⟨s, rfl, he⟩ | he
  · rw [he] at hn
    cases hn
  · rw [he] at ha
    cases ho : Assembly.openTag {} ⟨s⟩ with
    | error fault =>
      rw [Assembly.take, ho] at ha
      cases ha
    | ok b =>
      obtain ⟨c, t, ht, hc⟩ := namesRoot_append (t := ['>']) (name_of_openTag ho) (c := '/') rfl
      exact ⟨c, t, by rw [List.append_assoc]; exact ht, hc⟩
  · rw [he] at ha
    exact namesRoot_append (name_of_openTag ha) rfl

/-! ## In front of the root -/

/-- A piece that is no tag is text, escaped or verbatim, or of no interest. -/
theorem Markup.Event.ofPiece_not_tag {p : Piece} {e : Event} (hp : p.isTag = false)
    (he : ofPiece p = .ok e) : (∃ raw, e = .text raw) ∨ (∃ s, e = .verbatim s) ∨ e = .aside := by
  cases p with
  | tag inside => cases hp
  | text raw =>
    cases he
    exact .inl ⟨raw, rfl⟩
  | verbatim inside =>
    dsimp only [ofPiece] at he
    split at he
    · cases he
      exact .inr (.inl ⟨_, rfl⟩)
    · cases he
  | instruction inside | comment inside | doctype inside =>
    dsimp only [ofPiece] at he
    repeat' split at he
    all_goals
      cases he
      try exact .inr (.inr rfl)

/-- Other pieces leave everything as it is while nothing is open yet. -/
theorem Reading.take_of_not_tag {r r' : Reading} {p : Piece} (hp : p.isTag = false)
    (h : r.take p = .ok r') (hn : r.nesting = []) (ha : r.assembly = {}) :
    (∃ e, Event.ofPiece p = .ok e) ∧ r'.nesting = [] ∧ r'.assembly = {} := by
  obtain ⟨e, he, hnesting, hassembly⟩ := exists_event_of_take h
  rw [hn] at hnesting
  rw [ha] at hassembly
  refine ⟨⟨e, he⟩, ?_⟩
  rcases Event.ofPiece_not_tag hp he with ⟨raw, rfl⟩ | ⟨s, rfl⟩ | rfl
  · unfold Assembly.take at hassembly
    dsimp only at hassembly
    split at hassembly
    · cases hassembly
    · exact ⟨(Except.ok.inj hnesting).symm, (Except.ok.inj hassembly).symm⟩
  · exact ⟨(Except.ok.inj hnesting).symm, (Except.ok.inj hassembly).symm⟩
  · exact ⟨(Except.ok.inj hnesting).symm, (Except.ok.inj hassembly).symm⟩

/-- Where a catalog comes out, there is a first tag, and it is the root. -/
theorem Reading.exists_root_of_run {r r' : Reading} {pieces : List Piece}
    (h : r.run pieces = .ok r') (hn : r.nesting = []) (ha : r.assembly = {})
    (hc : r'.assembly.catalog ≠ none) :
    ∃ before inside rest, pieces = before ++ .tag inside :: rest ∧ NamesRoot inside ∧
      ∀ p ∈ before, p.isTag = false ∧ ∃ e, Event.ofPiece p = .ok e := by
  induction pieces generalizing r with
  | nil =>
    cases h
    rw [ha] at hc
    exact absurd rfl hc
  | cons p pieces ih =>
    obtain ⟨q, hq, hr⟩ := run_cons h
    cases hp : p.isTag with
    | false =>
      obtain ⟨he, hn', ha'⟩ := take_of_not_tag hp hq hn ha
      obtain ⟨before, inside, rest, rfl, hroot, hbefore⟩ := ih hr hn' ha'
      refine ⟨p :: before, inside, rest, rfl, hroot, fun p' hp' => ?_⟩
      rcases List.mem_cons.1 hp' with rfl | hp'
      · exact ⟨hp, he⟩
      · exact hbefore p' hp'
    | true =>
      cases p with
      | tag inside =>
        obtain ⟨e, he, hnesting, hassembly⟩ := exists_event_of_take hq
        cases he
        rw [hn] at hnesting
        rw [ha] at hassembly
        exact ⟨[], inside, pieces, rfl, namesRoot_of_event hnesting hassembly,
          fun _ h => absurd h List.not_mem_nil⟩
      | _ => cases hp

/-- A document that is read is cut into whole pieces, the first tag of which is the root. -/
theorem Catalog.exists_root_of_parseChars {s : List Char} {c : Catalog}
    (h : parseChars s = .ok c) :
    ∃ before inside rest, (cut (dropByteOrderMark s)).finished = before ++ .tag inside :: rest ∧
      NamesRoot inside ∧ ∀ p ∈ before, p.isTag = false ∧ ∃ e, Event.ofPiece p = .ok e := by
  obtain ⟨r, hr, h⟩ := parseChars_eq_ok_iff.1 h
  have hcatalog : r.assembly.catalog ≠ none := by
    intro hnone
    unfold Assembly.finish at h
    rw [hnone] at h
    cases h
  exact Reading.exists_root_of_run (Reading.runAll_eq_ok_iff.1 hr).2 rfl rfl hcatalog

/-- A document that is read is the pieces that it is cut into. -/
theorem Catalog.source_of_parseChars {s : List Char} {c : Catalog} (h : parseChars s = .ok c) :
    (cut (dropByteOrderMark s)).finished.flatMap Piece.source = dropByteOrderMark s := by
  obtain ⟨r, hr, -⟩ := parseChars_eq_ok_iff.1 h
  exact source_cut (Reading.runAll_eq_ok_iff.1 hr).1

end MessageCatalog
