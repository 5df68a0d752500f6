import MessageCatalog.Compare.Change
import MessageCatalog.Proofs.Catalog.RoundTrip
import MessageCatalog.Proofs.Lists

/-!
# What a comparison tells

A comparison tells for every message of the newer catalog what became of the one at its place, and
which places of the older catalog are gone. Where no place occurs twice this is all that is
different (`changes_exact`), and the comparison the other way round tells the same changes reversed.
Where a place occurs more than once the last message is compared with, so the others may differ even
from their own catalog (`isEmpty_self_iff`).
-/

namespace MessageCatalog.Compare

/-! ## Places -/

/-- The places of the messages of a catalog. -/
def places (c : Catalog) : List (String × Key) :=
  c.entries.map placeOf

namespace Index
variable {c : Catalog} {b e : String × Message} {m : Message}

theorem contains_ofCatalog (c : Catalog) (place : String × Key) :
    (ofCatalog c).contains place = decide (place ∈ places c) := by
  have hkeys : (c.entries.map fun e => (placeOf e, e.2)).map Prod.fst = places c := List.map_map ..
  rw [ofCatalog, Std.HashMap.contains_ofList, hkeys, List.contains_eq_mem]

/-- The index has the last message of a place. -/
theorem getElem?_ofCatalog (c : Catalog) (place : String × Key) :
    (ofCatalog c)[place]? =
      (c.entries.reverse.find? fun b => decide (placeOf b = place)).map (·.2) := by
  rw [ofCatalog, Std.HashMap.ofList_eq_insertMany_empty, Std.HashMap.getElem?_insertMany_list,
    Std.HashMap.getElem?_empty, Option.or_none, List.findSomeRev?_eq_findSome?_reverse,
    ← List.map_reverse, List.findSome?_map]
  induction c.entries.reverse with
  | nil => rfl
  | cons b s ih =>
    rw [List.findSome?_cons, ih]
    by_cases h : placeOf b = place <;> simp [h]

theorem getElem?_ofCatalog_eq_none_iff {place : String × Key} :
    (ofCatalog c)[place]? = none ↔ place ∉ places c := by
  rw [getElem?_ofCatalog, Option.map_eq_none_iff, List.find?_eq_none]
  simp [places]

/-- What the index has for a place stands there. -/
theorem exists_of_getElem?_ofCatalog (h : (ofCatalog c)[placeOf e]? = some m) :
    ∃ b ∈ c.entries, placeOf b = placeOf e ∧ b.2 = m := by
  rw [getElem?_ofCatalog, Option.map_eq_some_iff] at h
  obtain ⟨b, hb, rfl⟩ := h
  have hp : placeOf b = placeOf e := by simpa using List.find?_some hb
  exact ⟨b, List.mem_reverse.1 (List.mem_of_find?_eq_some hb), hp, rfl⟩

/-- Where no place occurs twice every message is the last of its place. -/
theorem getElem?_ofCatalog_of_nodup (hd : (places c).Nodup) (hb : b ∈ c.entries)
    (hp : placeOf b = placeOf e) : (ofCatalog c)[placeOf e]? = some b.2 := by
  have hr : (c.entries.reverse.map placeOf).Nodup := by
    rw [List.map_reverse]
    exact (List.reverse_perm _).nodup_iff.2 hd
  rw [getElem?_ofCatalog, ← hp, find?_key placeOf hr (List.mem_reverse.2 hb)]
  rfl

end Index

/-! ## One message -/

/-- A message that is new. -/
def addition (e : String × Message) : Change :=
  .of .added e.1 e.2 none (display e.2.target)

/-- A message that is gone. -/
def removal (e : String × Message) : Change :=
  .of .removed e.1 e.2 (display e.2.target) none

/-- What is to be told of a message of the newer catalog: that its place is new, or what differs
from a message that stands there in the older catalog, first the text and then the status. -/
inductive Tells (base : Catalog) (e : String × Message) : List Change → Prop
  | new (h : placeOf e ∉ places base) : Tells base e [addition e]
  | known {b : String × Message} (hb : b ∈ base.entries) (hp : placeOf b = placeOf e) :
    Tells base e
      ((if b.2.target = e.2.target then [] else
        [.of .textChanged e.1 e.2 (display b.2.target) (display e.2.target)]) ++
      (if b.2.status = e.2.status then [] else
        [.of .statusChanged e.1 e.2 b.2.status.name e.2.status.name]))

section One
variable {base : Catalog} {e : String × Message}

/-- A message is compared with the last one at its place. -/
theorem changesOf_ofCatalog (base : Catalog) :
    changesOf (.ofCatalog base) = fun e =>
      ((base.entries.reverse.find? fun b => decide (placeOf b = placeOf e)).map fun b =>
        changesBetween e.1 b.2 e.2).getD [addition e] := by
  funext e
  rw [changesOf, Index.getElem?_ofCatalog]
  cases base.entries.reverse.find? fun b => decide (placeOf b = placeOf e) <;> rfl

theorem changesOf_of_not_mem (h : placeOf e ∉ places base) :
    changesOf (.ofCatalog base) e = [addition e] := by
  rw [changesOf, Index.getElem?_ofCatalog_eq_none_iff.2 h]
  rfl

theorem changesOf_of_mem (hd : (places base).Nodup) {b : String × Message} (hb : b ∈ base.entries)
    (hp : placeOf b = placeOf e) :
    changesOf (.ofCatalog base) e = changesBetween e.1 b.2 e.2 := by
  rw [changesOf, Index.getElem?_ofCatalog_of_nodup hd hb hp]

/-- Exactly what is to be told of a message is told. -/
theorem tells_iff (hd : (places base).Nodup) {told : List Change} :
    Tells base e told ↔ told = changesOf (.ofCatalog base) e := by
  constructor
  · intro h
    cases h with
    | new h => exact (changesOf_of_not_mem h).symm
    | known hb hp => exact (changesOf_of_mem hd hb hp).symm
  · rintro rfl
    by_cases h : placeOf e ∈ places base
    · obtain ⟨b, hb, hp⟩ := List.mem_map.1 h
      rw [changesOf_of_mem hd hb hp]
      exact .known hb hp
    · rw [changesOf_of_not_mem h]
      exact .new h

/-- Nothing is told of a message whose place has its text and its status already. -/
theorem changesOf_eq_nil_iff :
    changesOf (.ofCatalog base) e = [] ↔
      ∃ m, (Index.ofCatalog base)[placeOf e]? = some m ∧
        m.target = e.2.target ∧ m.status = e.2.status := by
  unfold changesOf
  cases (Index.ofCatalog base)[placeOf e]? with
  | none => simp
  | some m => simp [changesBetween_eq_nil_iff]

end One

/-! ## All messages -/

theorem changes_eq (base newer : Catalog) :
    changes base newer =
      newer.entries.flatMap (changesOf (.ofCatalog base)) ++
        (base.entries.filter (placeOf · ∉ places newer)).map removal := by
  simp only [changes, Index.contains_ofCatalog, decide_not]
  rfl

theorem changes_eq_nil_iff {base newer : Catalog} :
    changes base newer = [] ↔
      (∀ e ∈ newer.entries, ∃ m, (Index.ofCatalog base)[placeOf e]? = some m ∧
        m.target = e.2.target ∧ m.status = e.2.status) ∧
      ∀ b ∈ base.entries, placeOf b ∈ places newer := by
  simp only [changes_eq, List.append_eq_nil_iff, List.flatMap_eq_nil_iff, changesOf_eq_nil_iff,
    List.map_eq_nil_iff, List.filter_eq_nil_iff, decide_eq_true_iff, not_not]

/-- The catalog has a target and a status at a place. -/
def Assigns (c : Catalog) (place : String × Key) (target : Target) (status : Status) : Prop :=
  ∃ e ∈ c.entries, placeOf e = place ∧ e.2.target = target ∧ e.2.status = status

section Distinct
variable {base newer : Catalog}

/-- Exactly what is to be told is told, of the messages in their order and then of those that are
gone. -/
theorem eq_changes_iff (hb : (places base).Nodup) {told : List Change} :
    told = changes base newer ↔
      ∃ parts, List.Forall₂ (Tells base) newer.entries parts ∧
        told = parts.flatten ++ (base.entries.filter (placeOf · ∉ places newer)).map removal := by
  have htells : ∀ e told, Tells base e told ↔ told = changesOf (.ofCatalog base) e := fun _ _ =>
    tells_iff hb
  simp only [forall₂_iff_eq_map htells, exists_eq_left, changes_eq, List.flatMap]

/-- Nothing has changed when both catalogs have the same at the same places. -/
theorem changes_eq_nil_iff_assigns (hb : (places base).Nodup) :
    changes base newer = [] ↔
      ∀ place target status,
        Assigns base place target status ↔ Assigns newer place target status := by
  rw [changes_eq_nil_iff]
  constructor
  · rintro ⟨hsame, hgone⟩ place target status
    constructor
    · rintro ⟨b, hmem, rfl, rfl, rfl⟩
      obtain ⟨e, he, hp⟩ := List.mem_map.1 (hgone b hmem)
      obtain ⟨m, hm, ht, hs⟩ := hsame e he
      rw [Index.getElem?_ofCatalog_of_nodup hb hmem hp.symm, Option.some.injEq] at hm
      subst hm
      exact ⟨e, he, hp, ht.symm, hs.symm⟩
    · rintro ⟨e, he, rfl, rfl, rfl⟩
      obtain ⟨m, hm, ht, hs⟩ := hsame e he
      obtain ⟨b, hmem, hp, rfl⟩ := Index.exists_of_getElem?_ofCatalog hm
      exact ⟨b, hmem, hp, ht, hs⟩
  · intro h
    constructor
    · intro e he
      obtain ⟨b, hmem, hp, ht, hs⟩ := (h _ _ _).2 ⟨e, he, rfl, rfl, rfl⟩
      exact ⟨b.2, Index.getElem?_ofCatalog_of_nodup hb hmem hp, ht, hs⟩
    · intro b hmem
      obtain ⟨e, he, hp, -⟩ := (h _ _ _).1 ⟨b, hmem, rfl, rfl, rfl⟩
      exact List.mem_map.2 ⟨e, he, hp⟩

end Distinct

/-! ## The other way round -/

/-- What a change is when the older catalog is the newer one. -/
def ChangeKind.reversed : ChangeKind → ChangeKind
  | added => removed
  | removed => added
  | textChanged => textChanged
  | statusChanged => statusChanged

/-- A change told the other way round. -/
def Change.reversed (c : Change) : Change :=
  { c with kind := c.kind.reversed, before := c.after, after := c.before }

theorem comment_filter_eq (m : Message) :
    m.comment.filter (· != "") = if m.commentKey = "" then none else some m.commentKey := by
  unfold Message.commentKey
  cases m.comment with
  | none => rfl
  | some comment => by_cases h : comment = "" <;> simp [h]

/-- Of a message only its place is told. -/
theorem change_of_congr {b e : String × Message} (h : placeOf b = placeOf e) (kind : ChangeKind)
    (before after : Option String) :
    Change.of kind b.1 b.2 before after = Change.of kind e.1 e.2 before after := by
  simp only [placeOf, Message.key, Prod.mk.injEq, Key.mk.injEq] at h
  obtain ⟨hcontext, hsource, hcomment⟩ := h
  simp only [Change.of, comment_filter_eq, hcontext, hsource, hcomment]

theorem changesBetween_reversed {b e : String × Message} (h : placeOf b = placeOf e) :
    (changesBetween e.1 b.2 e.2).map Change.reversed = changesBetween b.1 e.2 b.2 := by
  have hreversed : ∀ kind before after,
      (Change.of kind e.1 e.2 before after).reversed = .of kind.reversed b.1 b.2 after before := by
    intro kind before after
    rw [change_of_congr h]
    rfl
  unfold changesBetween
  rw [List.map_append]
  congr 1
  · by_cases ht : b.2.target = e.2.target
    · rw [if_pos ht, if_pos ht.symm, List.map_nil]
    · rw [if_neg ht, if_neg (Ne.symm ht), List.map_singleton, hreversed]
      rfl
  · by_cases hs : b.2.status = e.2.status
    · rw [if_pos hs, if_pos hs.symm, List.map_nil]
    · rw [if_neg hs, if_neg (Ne.symm hs), List.map_singleton, hreversed]
      rfl

/-- What has changed between the messages of two catalogs that have one place. -/
def changesInPlace (base newer : Catalog) : List Change :=
  newer.entries.flatMap fun e => base.entries.flatMap fun b =>
    if placeOf b = placeOf e then changesBetween e.1 b.2 e.2 else []

section Distinct
variable {base newer : Catalog}

/-- A message is new, or it has changed from the one at its place. -/
theorem changesOf_eq (hb : (places base).Nodup) (e : String × Message) :
    changesOf (.ofCatalog base) e =
      (if placeOf e ∉ places base then [addition e] else []) ++
        base.entries.flatMap fun b =>
          if placeOf b = placeOf e then changesBetween e.1 b.2 e.2 else [] := by
  by_cases h : placeOf e ∈ places base
  · obtain ⟨b, hmem, hp⟩ := List.mem_map.1 h
    rw [if_neg (not_not.2 h), List.nil_append, changesOf_of_mem hb hmem hp, ← hp]
    exact (flatMap_key placeOf (fun b => changesBetween e.1 b.2 e.2) hb hmem).symm
  · have hnil : (base.entries.flatMap fun b =>
        if placeOf b = placeOf e then changesBetween e.1 b.2 e.2 else []) = [] :=
      List.flatMap_eq_nil_iff.2 fun b hmem =>
        if_neg fun hp => h (List.mem_map.2 ⟨b, hmem, hp⟩)
    rw [if_pos h, hnil, List.append_nil, changesOf_of_not_mem h]

/-- The changes are what is new, what has changed in its place and what is gone. -/
theorem changes_perm (hb : (places base).Nodup) :
    (changes base newer).Perm
      ((newer.entries.filter (placeOf · ∉ places base)).map addition ++
        changesInPlace base newer ++
        (base.entries.filter (placeOf · ∉ places newer)).map removal) := by
  have hadded := flatMap_ite (fun e => placeOf e ∉ places base) addition newer.entries
  rw [changes_eq, ← hadded, funext (changesOf_eq hb)]
  exact (List.flatMap_append_perm newer.entries _ _).symm.append_right _

/-- What has changed in its place is told reversed by the other comparison. -/
theorem changesInPlace_reversed (base newer : Catalog) :
    ((changesInPlace base newer).map Change.reversed).Perm (changesInPlace newer base) := by
  have hchanges : (changesInPlace base newer).map Change.reversed =
      newer.entries.flatMap fun e => base.entries.flatMap fun b =>
        if placeOf e = placeOf b then changesBetween b.1 e.2 b.2 else [] := by
    simp only [changesInPlace, List.map_flatMap]
    refine List.flatMap_congr fun e _ => List.flatMap_congr fun b _ => ?_
    by_cases hp : placeOf b = placeOf e
    · rw [if_pos hp, if_pos hp.symm, changesBetween_reversed hp]
    · rw [if_neg hp, if_neg (Ne.symm hp), List.map_nil]
  rw [hchanges]
  exact flatMap_comm_perm newer.entries base.entries _

/-- The comparison the other way round tells the changes reversed, but for their order. -/
theorem changes_reversed (hb : (places base).Nodup) (hn : (places newer).Nodup) :
    (changes newer base).Perm ((changes base newer).map Change.reversed) := by
  have hadded : ∀ s : List (String × Message),
      (s.map addition).map Change.reversed = s.map removal := fun s => List.map_map ..
  have hremoved : ∀ s : List (String × Message),
      (s.map removal).map Change.reversed = s.map addition := fun s => List.map_map ..
  have hforward : (changes base newer).Perm _ := changes_perm hb
  have h := hforward.map Change.reversed
  rw [List.map_append, List.map_append, hadded, hremoved] at h
  have hstayed := h.trans (((changesInPlace_reversed base newer).append_left _).append_right _)
  -- What was new is gone now, so the first part and the last one trade places.
  have hswap : ∀ fresh stayed gone : List Change,
      (fresh ++ stayed ++ gone).Perm (gone ++ stayed ++ fresh) := by
    intro fresh stayed gone
    rw [List.append_assoc gone]
    exact List.perm_append_comm.trans (List.perm_append_comm.append_left gone)
  exact (changes_perm hn).trans (hstayed.trans (hswap ..)).symm

end Distinct

/-! ## Comparisons -/

/-- A comparison of two catalogs in which no place occurs twice is sound and complete. It tells of
every message of the newer catalog in order what is to be told, and then which messages of the older
one are gone. So it is empty exactly when both catalogs have the same text and status at the same
places, and the comparison the other way round tells the same changes reversed. -/
theorem changes_exact {base newer : Catalog} (hb : (places base).Nodup)
    (hn : (places newer).Nodup) :
    (∀ told, told = changes base newer ↔
      ∃ parts, List.Forall₂ (Tells base) newer.entries parts ∧
        told = parts.flatten ++
          (base.entries.filter (placeOf · ∉ places newer)).map removal) ∧
      (changes base newer = [] ↔ ∀ place target status,
        Assigns base place target status ↔ Assigns newer place target status) ∧
      (changes newer base).Perm ((changes base newer).map Change.reversed) :=
  ⟨fun _ => eq_changes_iff hb, changes_eq_nil_iff_assigns hb, changes_reversed hb hn⟩

/-- A catalog with a context that stands twice, and with a comment that is absent. -/
def olderCatalog : Catalog where
  contexts := [
    { name := "Main", messages := [
      { source := "Open", target := .single "Offen" },
      { source := "Close", target := .single "Zu" }] },
    { name := "Help", messages := [{ source := "About", target := .single "Über" }] },
    { name := "Main", messages := [{ source := "Quit", status := .unfinished }] }]

/-- The catalog revised, with the contexts in another order and the comment empty. -/
def newerCatalog : Catalog where
  contexts := [
    { name := "Main", messages := [
      { source := "Quit", target := .single "Beenden" },
      { source := "Open", comment := some "", target := .plural ["Offen"] },
      { source := "Open", comment := some "verb", target := .single "Öffnen" }] },
    { name := "Help", messages := [{ source := "About", target := .single "Über" }] }]

/-- Every kind of change is told, once for the message it is about. -/
theorem changes_exact_revision :
    (places olderCatalog).Nodup ∧ (places newerCatalog).Nodup ∧
      changes olderCatalog newerCatalog = [
        { kind := .textChanged, context := "Main", source := "Quit", before := some "",
          after := some "Beenden" },
        { kind := .statusChanged, context := "Main", source := "Quit", before := some "unfinished",
          after := some "finished" },
        { kind := .textChanged, context := "Main", source := "Open", before := some "Offen",
          after := some "Offen" },
        { kind := .added, context := "Main", source := "Open", comment := some "verb",
          after := some "Öffnen" },
        { kind := .removed, context := "Main", source := "Close", before := some "Zu" }] ∧
      (changes newerCatalog olderCatalog).Perm
        ((changes olderCatalog newerCatalog).map Change.reversed) := by
  have hb : (places olderCatalog).Nodup := by decide
  have hn : (places newerCatalog).Nodup := by decide
  obtain ⟨-, -, hreversed⟩ := changes_exact hb hn
  refine ⟨hb, hn, ?_, hreversed⟩
  rw [changes_eq, changesOf_ofCatalog]
  decide

/-- A catalog does not differ from itself exactly when all messages at one place have one text and
one status. -/
theorem isEmpty_self_iff (c : Catalog) (baseLabel newerLabel : String) :
    (Comparison.ofCatalogs c c baseLabel newerLabel).isEmpty = true ↔
      ∀ a ∈ c.entries, ∀ b ∈ c.entries, placeOf a = placeOf b →
        a.2.target = b.2.target ∧ a.2.status = b.2.status := by
  have hempty : (Comparison.ofCatalogs c c baseLabel newerLabel).isEmpty = true ↔
      changes c c = [] := List.isEmpty_iff
  rw [hempty, changes_eq_nil_iff]
  constructor
  · rintro ⟨hsame, -⟩ a ha b hb hp
    obtain ⟨m, hm, ht, hs⟩ := hsame a ha
    obtain ⟨m', hm', ht', hs'⟩ := hsame b hb
    -- Both are compared with the last message of the place.
    rw [hp, hm', Option.some.injEq] at hm
    subst hm
    exact ⟨ht.symm.trans ht', hs.symm.trans hs'⟩
  · intro h
    refine ⟨fun e he => ?_, fun e he => List.mem_map_of_mem he⟩
    cases hl : (Index.ofCatalog c)[placeOf e]? with
    | none => exact absurd (List.mem_map_of_mem he) (Index.getElem?_ofCatalog_eq_none_iff.1 hl)
    | some m =>
      obtain ⟨b, hb, hp, rfl⟩ := Index.exists_of_getElem?_ofCatalog hl
      exact ⟨b.2, rfl, h b hb e he hp⟩

/-- A catalog with two texts at one place. -/
def twiceCatalog : Catalog where
  contexts := [
    { name := "Main", messages := [
      { source := "Quit", target := .single "Beenden" },
      { source := "Quit", target := .single "Verlassen" }] }]

/-- The catalog is read from a file, and it differs from itself: its first message is compared with
its last one. -/
theorem twice_differs :
    Catalog.parse twiceCatalog.print = .ok twiceCatalog ∧
      (Comparison.ofCatalogs twiceCatalog twiceCatalog "a" "b").isEmpty = false := by
  constructor
  · have hs : twiceCatalog.IsShaped := by decide
    rw [Catalog.parse_print, Catalog.shaped_eq_self_iff.2 hs]
  · rw [Comparison.isEmpty, Comparison.ofCatalogs, changes_eq, changesOf_ofCatalog]
    decide

end MessageCatalog.Compare
