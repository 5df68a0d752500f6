import MessageCatalog.Proofs.Files.FilePath
import MessageCatalog.Proofs.Files.Still
import MessageCatalog.Proofs.Files.Tree

/-!
# Walks through a tree

The files below a directory of a tree have paths that are all different (`Tree.areDistinct_below`),
as a name in a directory is a component of its own (`FilePath.components_join`). The order in which
a tree holds its entries only matters for the order in which they are listed (`Tree.areAlike`).
-/

namespace MessageCatalog.Files

/-- What a file or a directory can be called. -/
structure IsEntryName (name : String) : Prop where
  notEmpty : name ≠ ""
  notHere : name ≠ "."
  notUp : name ≠ ".."
  noSlash : '/' ∉ name.toList

/-! ## Components -/

theorem splitFrom_append (held s t : List Char) :
    splitFrom held (s ++ '/' :: t) = splitFrom held s ++ splitFrom [] t := by
  induction s generalizing held with
  | nil => rfl
  | cons c s ih =>
    rw [List.cons_append, splitFrom, splitFrom]
    split
    · rw [ih, List.cons_append]
    · rw [ih]

theorem splitFrom_of_not_mem {held s : List Char} (h : '/' ∉ s) :
    splitFrom held s = [String.ofList (held.reverse ++ s)] := by
  induction s generalizing held with
  | nil => rw [splitFrom, List.append_nil]
  | cons c s ih =>
    simp only [List.mem_cons, not_or] at h
    rw [splitFrom, if_neg (Ne.symm h.1), ih h.2, List.reverse_cons, List.append_assoc,
      List.singleton_append]

namespace FilePath

/-- The component at the start of a path that is no part of it. -/
def lead (s : List Char) : List Component :=
  match s with
  | '/' :: _ => [.root]
  | ['.'] | '.' :: '/' :: _ => [.here]
  | _ => []

/-- What follows a slash has no part in the start of a path. -/
theorem lead_append {s : List Char} (hs : s ≠ []) (t : List Char) :
    lead (s ++ '/' :: t) = lead s := by
  rcases s with _ | ⟨c, _ | ⟨d, s⟩⟩
  · exact absurd rfl hs
  · unfold lead
    aesop
  · unfold lead
    aesop

theorem lead_of_isEntryName {name : String} (h : IsEntryName name) : lead name.toList = [] := by
  unfold lead
  split
  · next hs => exact absurd (hs ▸ List.mem_cons_self) h.noSlash
  · next hs => exact absurd (String.toList_inj.1 hs) h.notHere
  · next hs => exact absurd (hs ▸ List.mem_cons_of_mem _ List.mem_cons_self) h.noSlash
  · rfl

theorem components_of_isEntryName {name : String} (h : IsEntryName name) :
    (splitFrom [] name.toList).filterMap componentOf? = [.part name] := by
  rw [splitFrom_of_not_mem h.noSlash, List.reverse_nil, List.nil_append, String.ofList_toList]
  simp [componentOf?, h.notEmpty, h.notHere, h.notUp]

/-- The components of a path with some characters. -/
def componentsOf (s : List Char) : List Component :=
  lead s ++ (splitFrom [] s).filterMap componentOf?

/-- A slash at the end of a path does not matter. -/
theorem componentsOf_slash {s : List Char} (hs : s ≠ []) :
    componentsOf (s ++ ['/']) = componentsOf s := by
  have hblank : (splitFrom [] []).filterMap componentOf? = [] := by decide
  rw [componentsOf, lead_append hs, splitFrom_append, List.filterMap_append, hblank,
    List.append_nil, componentsOf]

/-- A name behind a slash is one more component. -/
theorem componentsOf_append (s : List Char) {name : String} (h : IsEntryName name) :
    componentsOf (s ++ '/' :: name.toList) = componentsOf (s ++ ['/']) ++ [.part name] := by
  have hlead : lead (s ++ '/' :: name.toList) = lead (s ++ ['/']) := by
    by_cases hs : s = []
    · rw [hs]
      rfl
    · rw [lead_append hs, lead_append hs]
  have hblank : (splitFrom [] []).filterMap componentOf? = [] := by decide
  rw [componentsOf, componentsOf, hlead, splitFrom_append, splitFrom_append,
    List.filterMap_append, List.filterMap_append, components_of_isEntryName h, hblank,
    List.append_nil, List.append_assoc]

/-- A name below a path is one more component. -/
theorem components_join (p : FilePath) {name : String} (h : IsEntryName name) :
    (p.join name).components = p.components ++ [.part name] := by
  have hslash : name.toList.head? ≠ some '/' := by
    intro hp
    obtain ⟨s, hs⟩ := List.head?_eq_some_iff.1 hp
    exact h.noSlash (hs ▸ List.mem_cons_self)
  change componentsOf (p.join name).chars = componentsOf p.chars ++ [.part name]
  unfold join
  split
  · next hp =>
    have hchars : p.chars = [] := by rw [chars, hp.resolve_left hslash]; rfl
    rw [hchars, componentsOf, chars, lead_of_isEntryName h, components_of_isEntryName h]
    rfl
  next hne =>
  have hchars : p.chars ≠ [] := fun hp => hne (.inr (String.toList_inj.1 hp))
  split
  · next hp =>
    obtain ⟨s, hs⟩ := List.getLast?_eq_some_iff.1 hp
    rw [chars, String.toList_append, ← chars, hs, List.append_assoc]
    exact componentsOf_append s h
  · rw [chars, String.toList_append, String.toList_append, ← chars, List.append_assoc]
    exact (componentsOf_append p.chars h).trans (by rw [componentsOf_slash hchars])

theorem components_pathBelow (p : FilePath) {names : List String}
    (h : ∀ name ∈ names, IsEntryName name) :
    (Tree.pathBelow p names).components = p.components ++ names.map .part := by
  induction names generalizing p with
  | nil => exact (List.append_nil _).symm
  | cons name names ih =>
    have hrest := ih (p.join name) fun n hn => h n (List.mem_cons_of_mem _ hn)
    rw [Tree.pathBelow, List.foldl_cons, ← Tree.pathBelow, hrest,
      components_join p (h name List.mem_cons_self), List.append_assoc]
    rfl

end FilePath

/-! ## Entries -/

namespace Tree

/-- Every place has one entry, on a way of names. -/
structure IsSound (t : Tree) : Prop where
  nodup : (t.entries.map (·.1)).Nodup
  names : ∀ e ∈ t.entries, ∀ name ∈ e.1, IsEntryName name

/-- Paths of different places below a directory are not the same. -/
theorem isSame_pathBelow (p : FilePath) {names names' : List String}
    (h : ∀ name ∈ names, IsEntryName name) (h' : ∀ name ∈ names', IsEntryName name)
    (hne : names ≠ names') : (pathBelow p names).isSame (pathBelow p names') = false := by
  refine decide_eq_false fun hs => hne ?_
  rw [FilePath.components_pathBelow p h, FilePath.components_pathBelow p h',
    List.append_cancel_left_eq] at hs
  exact List.map_injective_iff.2 (fun _ _ => Component.part.inj) hs

/-- The files below a directory are listed once each. -/
theorem areDistinct_below {t : Tree} (h : t.IsSound) (p : FilePath) :
    FilePath.AreDistinct (t.below p) := by
  unfold below
  split
  · exact .nil
  next place _ =>
  refine List.pairwise_filterMap.2 ?_
  have hplaces : t.entries.Pairwise fun e f => e.1 ≠ f.1 := List.pairwise_map.1 h.nodup
  refine hplaces.imp_of_mem fun {e f} he hf hne a ha b hb => ?_
  obtain ⟨q, entry⟩ := e
  obtain ⟨q', entry'⟩ := f
  cases entry with
  | directory => cases ha
  | file bytes =>
    cases entry' with
    | directory => cases hb
    | file bytes' =>
      obtain ⟨⟨hq, -⟩, ha⟩ := Option.ite_none_right_eq_some.1 ha
      obtain ⟨⟨hq', -⟩, hb⟩ := Option.ite_none_right_eq_some.1 hb
      cases ha
      cases hb
      have hnames := h.names _ he
      have hnames' := h.names _ hf
      -- Both ways begin with the way to the directory, so they differ in the names behind it.
      obtain ⟨names, rfl⟩ := List.isPrefixOf_iff_prefix.1 hq
      obtain ⟨names', rfl⟩ := List.isPrefixOf_iff_prefix.1 hq'
      rw [List.drop_left, List.drop_left]
      refine isSame_pathBelow p (fun n hn => hnames n (List.mem_append_right _ hn))
        (fun n hn => hnames' n (List.mem_append_right _ hn)) fun hs => hne ?_
      rw [hs]

/-! ## Trees with the same entries -/

section Perm
variable {t t' : Tree}

theorem IsSound.perm (h : t.IsSound) (hp : t.entries.Perm t'.entries) : t'.IsSound where
  nodup := (hp.map _).nodup_iff.1 h.nodup
  names e he := h.names e (hp.symm.subset he)

theorem lookup_eq_some_iff {entries : List (Place × Entry)} (h : (entries.map (·.1)).Nodup)
    {place : Place} {entry : Entry} :
    entries.lookup place = some entry ↔ (place, entry) ∈ entries := by
  induction entries with
  | nil => simp
  | cons e entries ih =>
    obtain ⟨q, x⟩ := e
    obtain ⟨hq, h⟩ := List.nodup_cons.1 h
    rw [lookup_cons_eq, List.mem_cons, Prod.mk.injEq]
    by_cases hplace : place = q
    · subst hplace
      -- No other entry has the place of the first.
      have hnot : (place, entry) ∉ entries := fun hm =>
        hq (List.mem_map.2 ⟨_, hm, rfl⟩)
      simp [hnot, eq_comm]
    · simp [hplace, ih h]

/-- The order of the entries does not matter for what is at a place. -/
theorem get?_eq (h : t.IsSound) (hp : t.entries.Perm t'.entries) : t.get? = t'.get? := by
  funext place
  unfold get?
  split
  · rfl
  · ext entry
    rw [lookup_eq_some_iff h.nodup, lookup_eq_some_iff (h.perm hp).nodup, hp.mem_iff]

theorem resolve_eq (hg : t.get? = t'.get?) : t.resolve = t'.resolve := by
  have hfollow : ∀ (q : Place) (parts : List String), t.follow q parts = t'.follow q parts := by
    intro q parts
    induction parts generalizing q with
    | nil => rfl
    | cons part rest ih => rw [follow_cons, follow_cons, ih, ih, ih, hg]
  funext p
  rw [resolve, resolve, hfollow]

/-- Trees that differ in the order of their entries are alike. -/
theorem areAlike (h : t.IsSound) (hp : t.entries.Perm t'.entries) (d : FilePath) :
    AreAlike d t t' := by
  have hg := get?_eq h hp
  have hr := resolve_eq hg
  refine ⟨?_, ?_, fun p _ => ?_⟩
  · change t.kind? d = t'.kind? d
    rw [kind?, kind?, find?, find?, hr, hg]
  · change (t.below d).Perm (t'.below d)
    unfold below
    rw [hr]
    split
    · exact .nil
    · exact hp.filterMap _
  · change t.read p = t'.read p
    rw [read_eq, read_eq, hr, hg]

end Perm

end Tree

end MessageCatalog.Files
