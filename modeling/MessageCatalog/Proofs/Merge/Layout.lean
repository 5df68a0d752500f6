import MessageCatalog.Proofs.Merge.Retirement
import MessageCatalog.Proofs.Merge.Summary

/-!
# The contexts of a merged catalog

A merged catalog has the contexts of the template first, each with its settled messages and what is
left of the existing context with its name (`settleContext_eq`). Behind them are the contexts that
the template does not have, as far as something is left of them.
-/

namespace MessageCatalog.Merge

section Layout
variable (existing template : Catalog) (options : Options) (formCount : Nat)

/-- A message of the template, settled with what the existing catalog has for it. -/
def settleIn (name : String) (t : Message) : Message × Summary :=
  settle existing options formCount (existing.find? name t.key) t

/-- What becomes of a message of the template: it takes over from the message with its key, which is
kept or revived, or it is new and takes the text of an equal string or none. -/
inductive Outcome (name : String) (t : Message) : Message × Summary → Prop
  | kept {m : Message} (hm : existing.find? name t.key = some m) (ha : m.isActive = true) :
    Outcome name t (refresh m t formCount, { kept := 1 })
  | revived {m : Message} (hm : existing.find? name t.key = some m) (ha : m.isActive = false) :
    Outcome name t (refresh m t formCount, { revived := 1 })
  | reused {target : Target} (hn : existing.find? name t.key = none)
    (hr : reusable? existing options t = some target) :
    Outcome name t (fresh t target, { sameText := 1 })
  | added (hn : existing.find? name t.key = none) (hr : reusable? existing options t = none) :
    Outcome name t (fresh t (emptyTarget t.numerus formCount), { added := 1 })

/-- The settled messages of a context of the template. -/
def settledMessages (context : Context) : List Message :=
  context.messages.map fun t => (settleIn existing options formCount context.name t).1

/-- What is left of the existing context with a name, and the summary of it. -/
def retireIn (name : String) : List Message × Summary :=
  retire template options name [] (existing.messagesOf name)

/-! ## Messages of the template -/

/-- Settling a message has one of the four outcomes. -/
theorem outcome_settleIn (name : String) (t : Message) :
    Outcome existing options formCount name t (settleIn existing options formCount name t) := by
  unfold settleIn settle
  cases hm : existing.find? name t.key with
  | some m =>
    dsimp only
    split
    · next ha => exact .kept hm ha
    · next ha => exact .revived hm (Bool.eq_false_iff.2 ha)
  | none =>
    cases hr : reusable? existing options t with
    | some target => exact .reused hm hr
    | none => exact .added hm hr

/-- A message of the template is settled as itself. -/
theorem settles_settleIn (name : String) (t : Message) :
    Settles (settleIn existing options formCount name t).1 t :=
  settles_settle existing options formCount _ t

/-! ## Contexts of the template -/

theorem settleContext_eq (context : Context) :
    settleContext existing template options formCount context =
      ({ name := context.name
         comment := context.comment.or ((existing.context? context.name).bind (·.comment))
         messages := settledMessages existing options formCount context ++
           (retireIn existing template options context.name).1 },
        (Summary.sum (context.messages.map fun t =>
          (settleIn existing options formCount context.name t).2)).add
            (retireIn existing template options context.name).2) := by
  unfold settleContext settledMessages settleIn retireIn Catalog.messagesOf Catalog.find?
  cases ho : existing.context? context.name with
  | none => simp [retire_nil, Function.comp_def]
  | some old => simp [Catalog.name_of_context? ho, Function.comp_def]

@[simp] theorem name_settleContext (context : Context) :
    (settleContext existing template options formCount context).1.name = context.name := by
  rw [settleContext_eq]

theorem keys_settledMessages (context : Context) :
    (settledMessages existing options formCount context).map (·.key) =
      context.messages.map (·.key) := by
  unfold settledMessages
  rw [List.map_map]
  apply List.map_congr_left
  intro t _
  exact (settles_settleIn existing options formCount context.name t).key

/-- A message of the template is looked up as it has been settled. -/
theorem find?_settledMessages (context : Context) (key : Key) :
    (settledMessages existing options formCount context).find? (·.key = key) =
      (context.find? key).map fun t => (settleIn existing options formCount context.name t).1 :=
  find?_map_key (fun t => (settles_settleIn existing options formCount context.name t).key) _ key

/-! ## Looking up in the result -/

/-- How many forms the language of a catalog has. -/
def formCountOf (c : Catalog) : Nat :=
  (Language.PluralRule.ofLocale c.languageCode).formCount

/-- The contexts that the template does not have. -/
def unknownContexts : List Context :=
  existing.contexts.filter fun c => (template.context? c.name).isNone

theorem retireContext_eq (c : Context) :
    retireContext template options c =
      ({ c with messages := (retire template options c.name [] c.messages).1 },
        (retire template options c.name [] c.messages).2) := rfl

@[simp] theorem name_retireContext (c : Context) :
    (retireContext template options c).1.name = c.name := rfl

/-- What is left of the contexts that the template does not have. -/
def goneContexts : List Context :=
  ((unknownContexts existing template).map fun c => (retireContext template options c).1).filter
    (!·.messages.isEmpty)

theorem sync_eq :
    sync existing template options =
      ({ version := existing.version
         language := existing.language
         sourceLanguage := existing.sourceLanguage.or template.sourceLanguage
         contexts := (template.contexts.map fun c =>
             (settleContext existing template options (formCountOf existing) c).1) ++
           goneContexts existing template options },
        Summary.sum ((template.contexts.map fun c =>
            (settleContext existing template options (formCountOf existing) c).2) ++
          (unknownContexts existing template).map fun c =>
            (retireContext template options c).2)) := by
  unfold sync goneContexts unknownContexts formCountOf
  simp [Function.comp_def]

/-- A count in which retired messages have no part is added up over the messages of the template. -/
theorem count_sync {f : Summary → Nat} (h0 : f {} = 0) (hadd : ∀ a b, f (a.add b) = f a + f b)
    (hretire : ∀ name ms, f (retire template options name [] ms).2 = 0) :
    f (sync existing template options).2 = total (template.entries.map fun t =>
      f (settleIn existing options (formCountOf existing) t.1 t.2).2) := by
  have hunknown : total ((unknownContexts existing template).map fun c =>
      f (retireContext template options c).2) = 0 :=
    total_eq_zero fun c _ => hretire c.name c.messages
  have hcontext : ∀ c : Context,
      f (settleContext existing template options (formCountOf existing) c).2 =
        total (c.messages.map fun t =>
          f (settleIn existing options (formCountOf existing) c.name t).2) := by
    intro c
    rw [settleContext_eq, hadd, retireIn, hretire, Nat.add_zero, sum_eq_total h0 hadd, List.map_map]
    rfl
  rw [sync_eq, sum_eq_total h0 hadd, List.map_append, total_append, List.map_map, List.map_map,
    Catalog.entries, total_map_flatMap]
  simp only [Function.comp_def, List.map_map, hcontext, hunknown, Nat.add_zero]

variable {existing template options}

theorem find?_settledContexts (name : String) :
    (template.contexts.map fun c =>
      (settleContext existing template options (formCountOf existing) c).1).find? (·.name = name) =
        (template.context? name).map fun c =>
          (settleContext existing template options (formCountOf existing) c).1 :=
  find?_map_key (f := Context.name) (g := Context.name)
    (name_settleContext existing template options (formCountOf existing)) template.contexts name

/-- A context of the template is the first one of the result with its name. -/
theorem context?_sync {name : String} {context : Context}
    (h : template.context? name = some context) :
    (sync existing template options).1.context? name =
      some (settleContext existing template options (formCountOf existing) context).1 := by
  rw [Catalog.context?, sync_eq, List.find?_append, find?_settledContexts, h]
  rfl

theorem messagesOf_sync {name : String} {context : Context}
    (h : template.context? name = some context) :
    (sync existing template options).1.messagesOf name =
      settledMessages existing options (formCountOf existing) context ++
        (retireIn existing template options name).1 := by
  have hn := Catalog.name_of_context? h
  unfold Catalog.messagesOf
  rw [context?_sync h, settleContext_eq, hn]
  rfl

/-- The first context with a name is the first of what is left under that name, unless nothing is
left of it. -/
theorem find?_goneContexts {name : String} {old : Context} (h : template.context? name = none)
    (ho : existing.context? name = some old)
    (hne : (retireContext template options old).1.messages ≠ []) :
    (goneContexts existing template options).find? (·.name = name) =
      some (retireContext template options old).1 := by
  have hu : (template.context? old.name).isNone = true := by
    rw [Catalog.name_of_context? ho, h]
    rfl
  have hf := find?_filter_of_find? (q := fun c => (template.context? c.name).isNone) ho hu
  have hg := find?_map_key (f := Context.name) (g := Context.name)
    (name_retireContext template options) (unknownContexts existing template) name
  refine find?_filter_of_find? ?_ (by simpa using hne)
  rw [hg, unknownContexts, hf]
  rfl

/-- Under a name that the template does not have stands what is left under it. -/
theorem messagesOf_sync_unknown {name : String} (h : template.context? name = none)
    (hne : (retireIn existing template options name).1 ≠ []) :
    (sync existing template options).1.messagesOf name =
      (retireIn existing template options name).1 := by
  cases ho : existing.context? name with
  | none =>
    rw [retireIn, Catalog.messagesOf, ho] at hne
    exact absurd rfl hne
  | some old =>
    have hr : (retireIn existing template options name).1 =
        (retireContext template options old).1.messages := by
      rw [retireIn, Catalog.messagesOf, ho, retireContext_eq, Catalog.name_of_context? ho]
      rfl
    have hc : (sync existing template options).1.context? name =
        some (retireContext template options old).1 := by
      rw [Catalog.context?, sync_eq, List.find?_append, find?_settledContexts, h,
        find?_goneContexts h ho (hr ▸ hne)]
      rfl
    rw [Catalog.messagesOf, hc, hr]
    rfl

end Layout

/-! ## A merge -/

/-- A catalog in which a context stands twice, with a retired message in it. -/
def sampleCatalog : Catalog where
  language := some "de"
  contexts := [
    { name := "Main", messages := [
      { source := "Open", target := .single "Öffnen" },
      { source := "Close", target := .single "Schließen", status := .vanished }] },
    { name := "Main", messages := [{ source := "Quit", target := .single "Beenden" }] },
    { name := "Old", messages := [{ source := "About", target := .single "Über" }] }]

/-- A template with one of its messages and a new one. -/
def sampleTemplate : Catalog where
  contexts := [
    { name := "Main", messages := [
      { source := "Open", status := .unfinished }, { source := "Save", status := .unfinished }] }]

example : (sync sampleCatalog sampleTemplate {}).2 = { kept := 1, added := 1, vanished := 1 } := by
  decide

end MessageCatalog.Merge
