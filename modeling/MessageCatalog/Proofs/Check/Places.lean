import Mathlib.Data.List.Nodup
import Mathlib.Data.Prod.Basic
import MessageCatalog.Proofs.Check.Errors
import MessageCatalog.Proofs.Compare.Changes
import MessageCatalog.Proofs.Merge.Settlement

/-!
# Repeated messages and their places

The check for repeated messages looks at one context at a time, while messages are compared, merged
and shown by their places: the name of the context and the key. So without any finding a place can
still occur twice, in contexts with one name (`nodup_places_iff`), and a message is found under its
key only where the first context with the name has it (`find?_eq_some_iff`). Neither happens where
the names of the contexts are distinct.
-/

namespace MessageCatalog

/-! ## Places -/

namespace Compare
variable {c : Catalog}

theorem places_eq_flatMap (c : Catalog) :
    places c = c.contexts.flatMap fun context =>
      (context.messages.map (·.key)).map (Prod.mk context.name) := by
  simp only [places, Catalog.entries, List.map_flatMap, List.map_map]
  rfl

/-- No place occurs twice when no key occurs twice in a context and no two contexts with one name
have a key in common. -/
theorem nodup_places_iff :
    (places c).Nodup ↔
      (∀ context ∈ c.contexts, (context.messages.map (·.key)).Nodup) ∧
        c.contexts.Pairwise fun a b =>
          a.name = b.name → (a.messages.map (·.key)).Disjoint (b.messages.map (·.key)) := by
  have hnodup : ∀ context : Context,
      ((context.messages.map (·.key)).map (Prod.mk context.name)).Nodup ↔
        (context.messages.map (·.key)).Nodup :=
    fun context => List.nodup_map_iff (Prod.mk_right_injective context.name)
  have hdisjoint : ∀ a b : Context,
      ((a.messages.map (·.key)).map (Prod.mk a.name)).Disjoint
          ((b.messages.map (·.key)).map (Prod.mk b.name)) ↔
        (a.name = b.name → (a.messages.map (·.key)).Disjoint (b.messages.map (·.key))) := by
    intro a b
    constructor
    · intro h hn key ha hb
      exact h (List.mem_map_of_mem ha) (hn ▸ List.mem_map_of_mem hb)
    · intro h place ha hb
      obtain ⟨key, hkey, rfl⟩ := List.mem_map.1 ha
      obtain ⟨key', hkey', he⟩ := List.mem_map.1 hb
      obtain ⟨hn, rfl⟩ := Prod.mk.inj he
      exact h hn.symm hkey hkey'
  rw [places_eq_flatMap, List.nodup_flatMap]
  exact and_congr (forall₂_congr fun context _ => hnodup context)
    (List.Pairwise.iff fun a b => hdisjoint a b)

theorem nodup_places_of_isDistinct (h : c.IsDistinct) : (places c).Nodup := by
  have hnames : c.contexts.Pairwise fun a b => a.name ≠ b.name := List.pairwise_map.1 h.names
  exact nodup_places_iff.2 ⟨h.keys, hnames.imp fun hne hn => absurd hn hne⟩

/-- The index of a distinct catalog has what is found under a key. -/
theorem Index.getElem?_ofCatalog_of_isDistinct (h : c.IsDistinct) (name : String) (key : Key) :
    (Index.ofCatalog c)[(name, key)]? = c.find? name key := by
  cases hm : c.find? name key with
  | some m =>
    have hmem : (name, m) ∈ c.entries := Catalog.mem_entries_of_find? hm
    rw [← Catalog.key_of_find? hm]
    exact Index.getElem?_ofCatalog_of_nodup (e := (name, m)) (nodup_places_of_isDistinct h) hmem rfl
  | none =>
    -- Every message is found under its key, so none has the place.
    rw [Index.getElem?_ofCatalog_eq_none_iff]
    intro hplace
    obtain ⟨b, hb, he⟩ := List.mem_map.1 hplace
    obtain ⟨rfl, rfl⟩ := Prod.mk.inj he
    rw [h.find? hb] at hm
    cases hm

end Compare

/-! ## Looking up -/

/-- Where no key occurs twice in a context, a message is found under its key when the first context
with the name has it. -/
theorem Catalog.find?_eq_some_iff {c : Catalog}
    (h : ∀ context ∈ c.contexts, (context.messages.map (·.key)).Nodup) {name : String}
    {m : Message} : c.find? name m.key = some m ↔ m ∈ c.messagesOf name := by
  rw [Catalog.find?_eq]
  constructor
  · exact List.mem_of_find?_eq_some
  · exact find?_key Message.key (Catalog.nodup_keys_messagesOf h name)

namespace Check

open Compare

/-- What follows when no message is found to repeat another one. No place occurs twice exactly when
contexts with one name have no key in common, and a message is found under its key exactly when the
first context with the name has it. Both hold of every message when no two contexts have one
name. -/
theorem places_of_no_repeats (c : Catalog) (h : ofKind .duplicateMessage (validate c) = []) :
    ((places c).Nodup ↔ c.contexts.Pairwise fun a b =>
        a.name = b.name → (a.messages.map (·.key)).Disjoint (b.messages.map (·.key))) ∧
      (∀ e ∈ c.entries, c.find? e.1 e.2.key = some e.2 ↔ e.2 ∈ c.messagesOf e.1) ∧
      ((c.contexts.map (·.name)).Nodup →
        (places c).Nodup ∧ ∀ e ∈ c.entries, c.find? e.1 e.2.key = some e.2) := by
  have hkeys : ∀ context ∈ c.contexts, (context.messages.map (·.key)).Nodup :=
    duplicateMessages_eq_nil_iff.1 h
  refine ⟨?_, fun e _ => Catalog.find?_eq_some_iff hkeys, fun hnames => ?_⟩
  · rw [nodup_places_iff]
    exact and_iff_right hkeys
  · have hd : c.IsDistinct := ⟨hnames, hkeys⟩
    exact ⟨nodup_places_of_isDistinct hd, fun e he => hd.find? he⟩

/-- Messages with one source are told apart by their comments. -/
theorem places_of_no_repeats_newer :
    ofKind .duplicateMessage (validate newerCatalog) = [] ∧
      (newerCatalog.contexts.map (·.name)).Nodup ∧ (places newerCatalog).Nodup ∧
      ∀ e ∈ newerCatalog.entries, newerCatalog.find? e.1 e.2.key = some e.2 := by
  have h : ofKind .duplicateMessage (validate newerCatalog) = [] :=
    duplicateMessages_eq_nil_iff.2 (by decide)
  have hnames : (newerCatalog.contexts.map (·.name)).Nodup := by decide
  exact ⟨h, hnames, (places_of_no_repeats newerCatalog h).2.2 hnames⟩

/-- A catalog in which a context stands twice, with a message in both. -/
def repeatedCatalog : Catalog where
  contexts := [
    { name := "Main", messages := [{ source := "Open", target := .single "Öffnen" }] },
    { name := "Main", messages := [
      { source := "Open", target := .single "Offen" },
      { source := "Quit", target := .single "Beenden" }] }]

/-- The catalog is read from a file and no message is found to repeat another one, but one place
occurs twice, and the messages of the second context are not found under their keys. -/
theorem repeated_has_no_finding :
    Catalog.parse repeatedCatalog.print = .ok repeatedCatalog ∧
      ofKind .duplicateMessage (validate repeatedCatalog) = [] ∧
      ¬(places repeatedCatalog).Nodup ∧
      ("Main", { source := "Quit", target := .single "Beenden" }) ∈ repeatedCatalog.entries ∧
      repeatedCatalog.find? "Main" ⟨"Quit", ""⟩ = none := by
  have hs : repeatedCatalog.IsShaped := by decide
  refine ⟨?_, duplicateMessages_eq_nil_iff.2 (by decide), by decide, by decide, by decide⟩
  rw [Catalog.parse_print, Catalog.shaped_eq_self_iff.2 hs]

end Check
end MessageCatalog
