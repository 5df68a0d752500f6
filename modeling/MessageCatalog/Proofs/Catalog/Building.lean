import MessageCatalog.Catalog.Basic
import MessageCatalog.Proofs.Lists

/-!
# Building catalogs

A catalog is built by adding messages to the contexts with their names, in any order, and contexts
that have no message yet. A catalog without contexts becomes the groups of what was added
(`isGrouped_addAll`): a context for each name in the order of first use, with the messages that were
added to it in their order. Looking up a message finds the first one that was added with its context
and its key.
-/

namespace MessageCatalog

/-! ## Additions -/

/-- What is added to a catalog: a message to the context with a name, or that context alone. -/
inductive Addition where
  | message (name : String) (message : Message)
  | context (name : String)
  deriving DecidableEq, Repr

namespace Addition

/-- The name of the context that is used. -/
def name : Addition → String
  | .message name _ => name
  | .context name => name

/-- The message that is added, with the name of its context. -/
def added? : Addition → Option (String × Message)
  | .message name m => some (name, m)
  | .context _ => none

/-- What becomes of the context that is used. -/
def apply : Addition → Context → Context
  | .message _ m, c => { c with messages := c.messages ++ [m] }
  | .context _, c => c

/-- The contexts that are used, each of them once and in the order of first use. -/
def usedNames (additions : List Addition) : List String :=
  (additions.map (·.name)).eraseDups

/-- The messages that are added, in their order. -/
def added (additions : List Addition) : List (String × Message) :=
  additions.filterMap (·.added?)

/-- The context with a name, holding the messages that are added to it. -/
def grouped (additions : List Addition) (name : String) : Context where
  name
  messages := ((added additions).filter (·.1 = name)).map (·.2)

theorem mem_usedNames {additions : List Addition} {name : String} :
    name ∈ usedNames additions ↔ name ∈ additions.map (·.name) :=
  List.mem_eraseDups

theorem nodup_usedNames (additions : List Addition) : (usedNames additions).Nodup :=
  nodup_eraseDups _

theorem fst_mem_usedNames {additions : List Addition} {e : String × Message}
    (h : e ∈ added additions) : e.1 ∈ usedNames additions := by
  obtain ⟨a, ha, he⟩ := List.mem_filterMap.1 h
  cases a with
  | message name m =>
    cases he
    exact mem_usedNames.2 (List.mem_map_of_mem ha)
  | context name => cases he

/-- A context that was not used yet is empty. -/
theorem grouped_of_notMem {additions : List Addition} {name : String}
    (h : name ∉ usedNames additions) : grouped additions name = { name } := by
  have hnone : (added additions).filter (·.1 = name) = [] :=
    List.filter_eq_nil_iff.2 fun e he hname => h (of_decide_eq_true hname ▸ fst_mem_usedNames he)
  rw [grouped, hnone, List.map_nil]

/-- One more addition concerns the context that it uses alone. -/
theorem grouped_concat (additions : List Addition) (a : Addition) (name : String) :
    grouped (additions ++ [a]) name =
      if name = a.name then a.apply (grouped additions name) else grouped additions name := by
  cases a with
  | message used m =>
    have hadded : added (additions ++ [.message used m]) = added additions ++ [(used, m)] := by
      simp [added, added?]
    by_cases hname : name = used
    · simp [grouped, hadded, hname, Addition.name, apply]
    · simp [grouped, hadded, hname, Addition.name, Ne.symm hname]
  | context used =>
    have hadded : added (additions ++ [.context used]) = added additions := by
      simp [added, added?]
    simp [grouped, hadded, apply]

end Addition

open Addition

namespace Catalog

/-- Make an addition. -/
def add (c : Catalog) : Addition → Catalog
  | .message name m => c.push name m
  | .context name => c.updateContext name id

/-- Make some additions, one after the other. -/
def addAll (c : Catalog) (additions : List Addition) : Catalog :=
  additions.foldl add c

theorem add_eq (c : Catalog) (a : Addition) : c.add a = c.updateContext a.name a.apply := by
  cases a <;> rfl

/-! ## One addition -/

/-- A context whose name is new is added at the end. -/
theorem updateContexts_of_notMem {name : String} {contexts : List Context}
    (h : name ∉ contexts.map (·.name)) (f : Context → Context) :
    updateContexts name f contexts = contexts ++ [f { name }] := by
  induction contexts with
  | nil => rfl
  | cons context contexts ih =>
    rw [List.map_cons, List.mem_cons, not_or] at h
    rw [updateContexts, if_neg (Ne.symm h.1), ih h.2, List.cons_append]

/-- Asking for a context whose name is known changes nothing. -/
theorem updateContexts_id_of_mem {name : String} {contexts : List Context}
    (h : name ∈ contexts.map (·.name)) : updateContexts name id contexts = contexts := by
  induction contexts with
  | nil => cases h
  | cons context contexts ih =>
    rw [updateContexts]
    split
    · rfl
    · next hne => rw [ih ((List.mem_cons.1 h).resolve_left (Ne.symm hne))]

/-- Among contexts without equal names the one with a name is changed. -/
theorem updateContexts_map {g : String → Context} (hg : ∀ name, (g name).name = name)
    {names : List String} (hd : names.Nodup) {name : String} (h : name ∈ names)
    (f : Context → Context) :
    updateContexts name f (names.map g) =
      names.map fun other => if other = name then f (g other) else g other := by
  induction names with
  | nil => cases h
  | cons first names ih =>
    obtain ⟨hfirst, hd⟩ := List.nodup_cons.1 hd
    rw [List.map_cons, List.map_cons, updateContexts, hg]
    by_cases hname : first = name
    · have hrest : names.map (fun other => if other = name then f (g other) else g other) =
          names.map g :=
        List.map_congr_left fun other hother => if_neg fun (hother' : other = name) =>
          hfirst (hname.trans hother'.symm ▸ hother)
      rw [if_pos hname, if_pos hname, hrest]
    · rw [if_neg hname, if_neg hname, ih hd ((List.mem_cons.1 h).resolve_left (Ne.symm hname))]

/-- One more addition to the groups of some additions makes the groups of all of them. -/
theorem updateContexts_grouped (additions : List Addition) (a : Addition) :
    updateContexts a.name a.apply ((usedNames additions).map (grouped additions)) =
      (usedNames (additions ++ [a])).map (grouped (additions ++ [a])) := by
  have hnames : usedNames (additions ++ [a]) =
      if a.name ∈ usedNames additions then usedNames additions
      else usedNames additions ++ [a.name] := by
    simp only [mem_usedNames]
    rw [usedNames, List.map_append, List.map_singleton, eraseDups_concat, usedNames]
  by_cases hmem : a.name ∈ usedNames additions
  · rw [hnames, if_pos hmem, updateContexts_map (fun _ => rfl) (nodup_usedNames _) hmem]
    exact List.map_congr_left fun name _ => (grouped_concat additions a name).symm
  · have hnew : a.name ∉ ((usedNames additions).map (grouped additions)).map (·.name) := by
      simpa [grouped] using hmem
    have hlast : grouped (additions ++ [a]) a.name = a.apply { name := a.name } := by
      rw [grouped_concat, if_pos rfl, grouped_of_notMem hmem]
    have hothers : (usedNames additions).map (grouped (additions ++ [a])) =
        (usedNames additions).map (grouped additions) := by
      refine List.map_congr_left fun name hname => ?_
      have hne : name ≠ a.name := fun h => hmem (h ▸ hname)
      rw [grouped_concat, if_neg hne]
    rw [hnames, if_neg hmem, updateContexts_of_notMem hnew, List.map_append, hothers,
      List.map_singleton, hlast]

/-! ## All additions -/

theorem addAll_concat (c : Catalog) (additions : List Addition) (a : Addition) :
    c.addAll (additions ++ [a]) = (c.addAll additions).add a :=
  List.foldl_append

/-- The catalog of the groups of some additions. -/
def groups (start : Catalog) (additions : List Addition) : Catalog :=
  { start with contexts := (usedNames additions).map (grouped additions) }

/-- A catalog without contexts becomes the groups of what is added. -/
theorem addAll_eq {start : Catalog} (h : start.contexts = []) (additions : List Addition) :
    start.addAll additions = start.groups additions := by
  induction additions using List.reverseRecOn with
  | nil =>
    cases start
    cases h
    rfl
  | append_singleton additions a ih =>
    rw [addAll_concat, ih, add_eq, updateContext, groups, updateContexts_grouped, groups]

/-! ## The groups -/

theorem names_groups (start : Catalog) (additions : List Addition) :
    (start.groups additions).contexts.map (·.name) = usedNames additions := by
  rw [groups, List.map_map]
  exact List.map_id _

/-- The messages of a group are those that were added with its name. -/
theorem entries_groups (start : Catalog) (additions : List Addition) :
    (start.groups additions).entries =
      (usedNames additions).flatMap fun name => (added additions).filter (·.1 = name) := by
  rw [entries, groups, List.flatMap_map]
  refine List.flatMap_congr fun name _ => ?_
  rw [grouped, List.map_map]
  refine (List.map_congr_left fun e he => ?_).trans (List.map_id _)
  have hname : e.1 = name := of_decide_eq_true (List.mem_filter.1 he).2
  exact hname ▸ rfl

/-- No message is lost, and none is there twice. -/
theorem entries_groups_perm (start : Catalog) (additions : List Addition) :
    (start.groups additions).entries.Perm (added additions) := by
  rw [entries_groups]
  exact flatMap_filter_perm (·.1) (nodup_usedNames _) fun _ he => fst_mem_usedNames he

/-- A message is looked up in the group with its name, which is empty where the name is not used. -/
theorem find?_groups (start : Catalog) (additions : List Addition) (name : String) (key : Key) :
    (start.groups additions).find? name key = (grouped additions name).find? key := by
  have hnames := names_groups start additions
  by_cases hname : name ∈ usedNames additions
  · have hmem : grouped additions name ∈ (start.groups additions).contexts :=
      List.mem_map_of_mem hname
    have hfound : (start.groups additions).context? name = some (grouped additions name) :=
      find?_key (fun c : Context => c.name) (hnames.symm ▸ nodup_usedNames _) hmem
    rw [find?, hfound, Option.bind_some]
  · have hnone : (start.groups additions).context? name = none := by
      refine List.find?_eq_none.2 fun c hc hn => hname ?_
      rw [← hnames, ← of_decide_eq_true hn]
      exact List.mem_map_of_mem hc
    rw [find?, hnone, grouped_of_notMem hname]
    rfl

/-- The first message that was added with a context and a key is the one that is found there. -/
theorem find?_groups_eq (start : Catalog) (additions : List Addition)
    (name source comment : String) :
    (start.groups additions).find? name ⟨source, comment⟩ =
      ((added additions).find? fun e =>
        e.1 = name ∧ e.2.source = source ∧ e.2.comment.getD "" = comment).map (·.2) := by
  rw [find?_groups, Context.find?, grouped, List.find?_map, List.find?_filter]
  simp [Message.key, Message.commentKey]

/-- The catalog holds the groups of what was added to a catalog without contexts. -/
structure IsGrouped (c start : Catalog) (additions : List Addition) : Prop where
  /-- Nothing but the contexts is changed. -/
  header : c = { start with contexts := c.contexts }
  /-- The contexts are those that were used, in the order of first use. -/
  order : c.contexts.map (·.name) = (additions.map (·.name)).eraseDups
  /-- No two contexts have one name. -/
  distinct : (c.contexts.map (·.name)).Nodup
  /-- A context holds the messages that were added to it, in their order. -/
  messages : ∀ context ∈ c.contexts, context.comment = none ∧
    context.messages = ((added additions).filter (·.1 = context.name)).map (·.2)
  /-- There are as many messages as were added. -/
  count : c.messageCount = (added additions).length
  /-- The messages are listed by their contexts. -/
  listed : c.entries = (c.contexts.map (·.name)).flatMap fun name =>
    (added additions).filter (·.1 = name)
  /-- The messages that are listed are those that were added. -/
  complete : c.entries.Perm (added additions)
  /-- The first message that was added with a context, a source and a comment is found there, where
  an absent comment is an empty one. -/
  found : ∀ name source comment, c.find? name ⟨source, comment⟩ =
    ((added additions).find? fun e =>
      e.1 = name ∧ e.2.source = source ∧ e.2.comment.getD "" = comment).map (·.2)
  /-- None is found exactly when none was added. -/
  missing : ∀ name source comment, c.find? name ⟨source, comment⟩ = none ↔
    ∀ m, (name, m) ∈ added additions → ¬(m.source = source ∧ m.comment.getD "" = comment)
  /-- A context that is asked for alone is added without messages, if its name is new. -/
  asked : ∀ name, c.add (.context name) =
    if name ∈ c.contexts.map (·.name) then c else { c with contexts := c.contexts ++ [{ name }] }

/-- Building groups what is added, without loss and without repetition. -/
theorem isGrouped_addAll {start : Catalog} (h : start.contexts = []) (additions : List Addition) :
    (start.addAll additions).IsGrouped start additions := by
  rw [addAll_eq h]
  have hnames := names_groups start additions
  exact {
    header := rfl
    order := hnames
    distinct := hnames.symm ▸ nodup_usedNames additions
    messages := by
      intro context hcontext
      obtain ⟨name, -, rfl⟩ := List.mem_map.1 hcontext
      exact ⟨rfl, rfl⟩
    count := by rw [← length_entries, (entries_groups_perm start additions).length_eq]
    listed := by rw [entries_groups, hnames]
    complete := entries_groups_perm start additions
    found := find?_groups_eq start additions
    missing := by
      intro name source comment
      rw [find?_groups_eq, Option.map_eq_none_iff, List.find?_eq_none]
      constructor
      · intro hnone m hm hkey
        exact hnone (name, m) hm (decide_eq_true ⟨rfl, hkey⟩)
      · rintro hnone ⟨used, m⟩ he hfits
        obtain ⟨rfl, hkey⟩ := of_decide_eq_true hfits
        exact hnone m he hkey
    asked := by
      intro name
      rw [add, updateContext]
      split
      · next hname => rw [updateContexts_id_of_mem hname]
      · next hname => rw [updateContexts_of_notMem hname, id] }

/-- Some additions to two contexts by turns, with one message added twice. -/
def turns : List Addition :=
  [.message "AboutDialog" { source := "License:", target := .single "Lizenz:" },
    .context "ChatPage", .context "MainWindow",
    .message "ChatPage" { source := "Send", status := .unfinished },
    .message "AboutDialog" { source := "Close", comment := some "", target := .single "Schließen" },
    .context "AboutDialog",
    .message "AboutDialog" { source := "Close", target := .single "Zumachen" }]

theorem isGrouped_addAll_turns :
    (({} : Catalog).addAll turns).IsGrouped {} turns ∧
      (({} : Catalog).addAll turns).contexts.map (·.name) =
        ["AboutDialog", "ChatPage", "MainWindow"] ∧
      ((({} : Catalog).addAll turns).find? "AboutDialog" ⟨"Close", ""⟩).map (·.target) =
        some (.single "Schließen") :=
  ⟨isGrouped_addAll rfl turns, by decide, by decide⟩

end Catalog

end MessageCatalog
