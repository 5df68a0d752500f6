import MessageCatalog.Proofs.Lookup.Scan
import MessageCatalog.Proofs.Merge.History

/-!
# What is shown after a merge

The first message of a catalog with a key in a context is the first one in the file there
(`find?_entries_of_find?`), so a chain that asks the catalog first shows its text, if it may be
shown (`Chain.resolve?_of_find?`). A message of the template that takes over from it may be shown
when it may, with the same text and under the same plural rule, so a merge does not change what is
shown.
-/

namespace MessageCatalog.Lookup

open MessageCatalog.Language Merge

/-! ## What is found first -/

section First
variable {c : Catalog} {context : String} {key : Key} {m : Message} {policy : Policy}

/-- What is found under a key is the first message of the file with the key in a context with the
name. -/
theorem find?_entries_of_find? (h : c.find? context key = some m) :
    (c.entries.find? fun e => decide (e.1 = context ∧ e.2.key = key)) = some (context, m) := by
  obtain ⟨found, hc, hf⟩ := Option.bind_eq_some_iff.1 h
  obtain ⟨hname, before, behind, hcontexts, hbefore⟩ := List.find?_eq_some_iff_append.1 hc
  have hname : found.name = context := of_decide_eq_true hname
  -- The contexts in front have other names, so none of their messages is looked for.
  have hnone : ((before.flatMap fun c => c.messages.map fun m => (c.name, m)).find? fun e =>
      decide (e.1 = context ∧ e.2.key = key)) = none := by
    rw [List.find?_eq_none]
    intro e he
    obtain ⟨other, ho, he⟩ := List.mem_flatMap.1 he
    obtain ⟨m', -, rfl⟩ := List.mem_map.1 he
    have hne : other.name ≠ context := by simpa using hbefore other ho
    simp [hne]
  have hfound : ((found.messages.map fun m => (found.name, m)).find? fun e =>
      decide (e.1 = context ∧ e.2.key = key)) = some (context, m) := by
    rw [List.find?_map]
    simp only [Function.comp_def, hname, true_and]
    rw [Context.find?] at hf
    rw [hf]
    rfl
  rw [Catalog.entries, hcontexts, List.flatMap_append, List.flatMap_cons, List.find?_append, hnone,
    Option.none_or, List.find?_append, hfound, Option.some_or]

/-- A layer has the text that is found under a key, if it may be shown. -/
theorem Layer.get?_of_find? (hm : c.find? context key = some m)
    (hu : isUsable policy m = true) :
    (Layer.ofCatalog policy c).get? context key = some m.target := by
  obtain ⟨-, before, behind, hentries, hbefore⟩ :=
    List.find?_eq_some_iff_append.1 (find?_entries_of_find? hm)
  have hanswers : Answers policy context key (context, m) :=
    answers_iff.2 ⟨hu, rfl, Catalog.key_of_find? hm⟩
  have hfirst : (c.entries.find? fun e => Answers policy context key e) = some (context, m) := by
    refine List.find?_eq_some_iff_append.2
      ⟨decide_eq_true hanswers, before, behind, hentries, fun e he => ?_⟩
    have hplace : ¬(e.1 = context ∧ e.2.key = key) := by
      simpa only [Bool.not_eq_true', decide_eq_false_iff_not] using hbefore e he
    have hnot : ¬Answers policy context key e := fun ha => hplace (answers_iff.1 ha).2
    rw [decide_eq_false hnot, Bool.not_false]
  rw [Layer.get?_ofCatalog, hfirst]
  rfl

/-- A chain shows what its first catalog has under a key, if it may be shown. -/
theorem Chain.resolve?_of_find? {source : String} {comment : Option String}
    (hm : c.find? context ⟨source, comment.getD ""⟩ = some m) (hu : isUsable policy m = true)
    (fallbacks : List Catalog) :
    (Chain.ofCatalogs policy (c :: fallbacks)).resolve? context source comment =
      some (.ofLocale c.languageCode, m.target) := by
  have hget : (Chain.ofCatalogs policy (c :: fallbacks)).get? context ⟨source, comment.getD ""⟩ =
      some (.ofLocale c.languageCode, m.target) := by
    rw [Chain.get?, Chain.ofCatalogs, List.map_cons, List.findSome?_cons, Layer.get?_of_find? hm hu]
    rfl
  rw [Chain.resolve?, hget, Option.some_or]

end First

/-! ## What takes over -/

theorem isActive_of_isUsable {policy : Policy} {m : Message} (h : isUsable policy m = true) :
    m.isActive = true := by
  unfold isUsable at h
  rw [Message.isActive]
  cases hs : m.status <;> simp_all [Status.isActive]

/-- A message in use that takes over from one with its shape has its text and its status. -/
theorem refresh_of_isActive {m t : Message} (ha : m.isActive = true) (hn : t.numerus = m.numerus)
    (formCount : Nat) :
    (refresh m t formCount).target = m.target ∧ (refresh m t formCount).status = m.status := by
  rw [status_refresh hn.symm, revivedStatus_of_isActive ha]
  exact ⟨target_refresh hn.symm formCount, rfl⟩

theorem isUsable_refresh {policy : Policy} {m t : Message} (hu : isUsable policy m = true)
    (hn : t.numerus = m.numerus) (formCount : Nat) :
    isUsable policy (refresh m t formCount) = true := by
  obtain ⟨htarget, hstatus⟩ := refresh_of_isActive (isActive_of_isUsable hu) hn formCount
  rw [isUsable, htarget, hstatus]
  exact hu

/-! ## What is shown -/

/-- What is shown depends only on what is found. -/
theorem Chain.shown_congr {chain chain' : Chain} {context source : String} {comment : Option String}
    (h : chain.resolve? context source comment = chain'.resolve? context source comment) :
    chain.text context source comment = chain'.text context source comment ∧
      ∀ n, chain.textForCount context source comment n =
        chain'.textForCount context source comment n := by
  constructor
  · rw [Chain.text, Chain.text, h]
  · intro n
    rw [Chain.textForCount, Chain.textForCount, Chain.template, Chain.template, h]

/-- A merge does not change what is shown for a message that stays in use. When the message found
under a key may be shown and the template has one under the key with the same shape, a chain shows
the same text with the merged catalog as with the existing one, without a count and for every count,
and it is the text of that message. -/
theorem sync_keeps_shown (policy : Policy) (fallbacks : List Catalog) (options : Options)
    {existing template : Catalog} {context source : String} {comment : Option String}
    {m t : Message} (hm : existing.find? context ⟨source, comment.getD ""⟩ = some m)
    (hu : isUsable policy m = true)
    (ht : template.find? context ⟨source, comment.getD ""⟩ = some t)
    (hn : t.numerus = m.numerus) :
    let before := Chain.ofCatalogs policy (existing :: fallbacks)
    let after := Chain.ofCatalogs policy ((sync existing template options).1 :: fallbacks)
    after.text context source comment = before.text context source comment ∧
      (∀ n, after.textForCount context source comment n =
        before.textForCount context source comment n) ∧
      m.target.firstText? = some (before.text context source comment) := by
  intro before after
  have hbefore : before.resolve? context source comment =
      some (.ofLocale existing.languageCode, m.target) := Chain.resolve?_of_find? hm hu fallbacks
  have hafter : after.resolve? context source comment =
      some (.ofLocale existing.languageCode, m.target) := by
    have hfound : (sync existing template options).1.find? context ⟨source, comment.getD ""⟩ =
        some (refresh m t (formCountOf existing)) := find?_sync_refresh hm ht
    have htarget := (refresh_of_isActive (isActive_of_isUsable hu) hn (formCountOf existing)).1
    rw [← htarget]
    exact Chain.resolve?_of_find? hfound (isUsable_refresh hu hn _) fallbacks
  have htext : m.target.isEmpty = false := by
    rw [isUsable, Bool.and_eq_true, Bool.not_eq_true'] at hu
    exact hu.2
  obtain ⟨hshown, hcounted⟩ := Chain.shown_congr (hafter.trans hbefore.symm)
  exact ⟨hshown, hcounted, Chain.text_of_resolve? hbefore htext⟩

/-- A catalog with two messages under one key, the first of them unfinished, and with a third one in
a context that stands twice. -/
def countedCatalog : Catalog where
  language := some "sl"
  contexts := [
    { name := "Files", messages := [
      { source := "%n file(s)", numerus := true, status := .unfinished
        target := .plural ["%n datoteka", "%n datoteki", "%n datoteke", "%n datotek"] },
      { source := "%n file(s)", target := .single "%n" }] },
    { name := "Files", messages := [
      { source := "%n file(s)", numerus := true, target := .plural ["%n"] }] }]

/-- A template with the key of these messages. -/
def countedTemplate : Catalog where
  contexts := [
    { name := "Files", messages := [
      { source := "%n file(s)", comment := some "", numerus := true, status := .unfinished }] }]

/-- The first of the messages stays in use, and it is shown where unfinished texts are. -/
theorem sync_keeps_shown_counted :
    let policy : Policy := { includeUnfinished := true }
    let m : Message := {
      source := "%n file(s)", numerus := true, status := .unfinished
      target := .plural ["%n datoteka", "%n datoteki", "%n datoteke", "%n datotek"] }
    let t : Message := {
      source := "%n file(s)", comment := some "", numerus := true, status := .unfinished }
    let before := Chain.ofCatalogs policy [countedCatalog]
    let after := Chain.ofCatalogs policy [(sync countedCatalog countedTemplate {}).1]
    countedCatalog.find? "Files" ⟨"%n file(s)", ""⟩ = some m ∧ isUsable policy m = true ∧
      countedTemplate.find? "Files" ⟨"%n file(s)", ""⟩ = some t ∧ t.numerus = m.numerus ∧
      after.text "Files" "%n file(s)" none = before.text "Files" "%n file(s)" none ∧
      (∀ n, after.textForCount "Files" "%n file(s)" none n =
        before.textForCount "Files" "%n file(s)" none n) ∧
      m.target.firstText? = some (before.text "Files" "%n file(s)" none) := by
  intro policy m t before after
  have hm : countedCatalog.find? "Files" ⟨"%n file(s)", ""⟩ = some m := by decide
  have hu : isUsable policy m = true := by decide
  have ht : countedTemplate.find? "Files" ⟨"%n file(s)", ""⟩ = some t := by decide
  have hn : t.numerus = m.numerus := by decide
  exact ⟨hm, hu, ht, hn, sync_keeps_shown policy [] {} hm hu ht hn⟩

end MessageCatalog.Lookup
