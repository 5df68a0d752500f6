import MessageCatalog.Lookup.Chain

/-!
# A look-up is a plain scan of the catalogs

The index of a catalog keeps, under a context and a source, the texts in the order of the file
(`Index.entriesAt_add`), so the first of them with a comment is that of the first message of the
file which may be shown for the key (`Layer.get?_ofCatalog`). A chain asks one layer after the
other, and so finds what a scan of all messages of all catalogs finds (`Chain.get?_ofCatalogs`).
From this follows what is shown, with a count and without.
-/

namespace MessageCatalog.Lookup

open MessageCatalog.Language

/-! ## The scan -/

/-- The message may be shown for a key in a context: it stands there, has the key and text, and is
finished, or unfinished where that is allowed. -/
structure Answers (policy : Policy) (context : String) (key : Key) (e : String × Message) :
    Prop where
  context : e.1 = context
  source : e.2.source = key.source
  comment : e.2.commentKey = key.comment
  status : e.2.status = .finished ∨ e.2.status = .unfinished ∧ policy.includeUnfinished = true
  text : e.2.target.isEmpty = false

theorem answers_iff {policy : Policy} {context : String} {key : Key} {e : String × Message} :
    Answers policy context key e ↔
      isUsable policy e.2 = true ∧ e.1 = context ∧ e.2.key = key := by
  have hs : isUsable policy e.2 = true ↔
      (e.2.status = .finished ∨ e.2.status = .unfinished ∧ policy.includeUnfinished = true) ∧
        e.2.target.isEmpty = false := by
    rw [isUsable, Bool.and_eq_true, Bool.not_eq_true']
    cases e.2.status <;> simp
  have hk : e.2.key = key ↔ e.2.source = key.source ∧ e.2.commentKey = key.comment := by
    cases key
    simp [Message.key]
  rw [hs, hk]
  constructor
  · rintro ⟨hc, hsource, hcomment, hstatus, htext⟩
    exact ⟨⟨hstatus, htext⟩, hc, hsource, hcomment⟩
  · rintro ⟨⟨hstatus, htext⟩, hc, hsource, hcomment⟩
    exact ⟨hc, hsource, hcomment, hstatus, htext⟩

instance (policy : Policy) (context : String) (key : Key) (e : String × Message) :
    Decidable (Answers policy context key e) :=
  decidable_of_iff _ answers_iff.symm

/-- The first message of some catalogs that may be shown for a key in a context, with its catalog.
The catalogs are walked in order, and the messages of each in the order of its file. -/
def scan? (policy : Policy) (catalogs : List Catalog) (context : String) (key : Key) :
    Option (Catalog × Message) :=
  ((catalogs.flatMap fun c => c.entries.map fun e => (c, e)).find? fun (_, e) =>
    Answers policy context key e).map fun (c, _, m) => (c, m)

/-- What a scan finds for a source string: the message with the comment, or else, if there is a
comment, the message without one. -/
def hit? (policy : Policy) (catalogs : List Catalog) (context source : String)
    (comment : Option String) : Option (Catalog × Message) :=
  (scan? policy catalogs context ⟨source, comment.getD ""⟩).or
    (if comment.getD "" = "" then none else scan? policy catalogs context ⟨source, ""⟩)

/-! ## Indexes -/

namespace Index

theorem get?_empty (context : String) (key : Key) : get? {} context key = none := by
  simp [get?]

/-- The texts with a context and a source. -/
def entriesAt (index : Index) (context source : String) : List Entry :=
  (index[context]?.bind (·[source]?)).getD []

theorem get?_eq (index : Index) (context : String) (key : Key) :
    index.get? context key =
      ((index.entriesAt context key.source).find? (·.comment = key.comment)).map (·.target) := by
  unfold get? entriesAt
  cases index[context]? with
  | none => rfl
  | some sources =>
    simp only [Option.bind_eq_bind, Option.bind_some]
    cases sources[key.source]? <;> rfl

/-- The text of an added message stands behind the others with its context and its source. -/
theorem entriesAt_add (index : Index) (context name source : String) (m : Message) :
    (index.add name m).entriesAt context source =
      index.entriesAt context source ++
        if name = context ∧ m.source = source then [⟨m.commentKey, m.target⟩] else [] := by
  unfold entriesAt
  rw [add, Std.HashMap.getElem?_alter]
  by_cases hn : name = context
  · subst hn
    rw [if_pos (beq_self_eq_true name), Option.bind_some, Std.HashMap.getElem?_alter]
    by_cases hs : m.source = source
    · subst hs
      rw [if_pos (beq_self_eq_true m.source), if_pos ⟨rfl, rfl⟩]
      cases index[name]? <;> simp
    · rw [if_neg (by simpa using hs), if_neg fun h => hs h.2, List.append_nil]
      cases index[name]? <;> simp
  · rw [if_neg (by simpa using hn), if_neg fun h => hn h.1, List.append_nil]

/-- The text of an added message is found under its key, unless another one is found there. -/
theorem get?_add (index : Index) (context name : String) (key : Key) (m : Message) :
    (index.add name m).get? context key =
      (index.get? context key).or
        (if name = context ∧ m.key = key then some m.target else none) := by
  obtain ⟨source, comment⟩ := key
  rw [get?_eq, get?_eq, entriesAt_add, List.find?_append, Option.map_or]
  congr 1
  by_cases h : name = context ∧ m.source = source
  · rw [if_pos h]
    by_cases hc : m.commentKey = comment <;> simp [Message.key, h, hc]
  · have hne : ¬(name = context ∧ m.key = ⟨source, comment⟩) := by
      rintro ⟨hn, hk⟩
      exact h ⟨hn, congrArg Key.source hk⟩
    rw [if_neg h, if_neg hne]
    rfl

/-- The first message with a key is found, behind what was in the index before. -/
theorem get?_foldl_add (entries : List (String × Message)) (index : Index) (context : String)
    (key : Key) :
    (entries.foldl (fun index (name, m) => index.add name m) index).get? context key =
      (index.get? context key).or
        ((entries.find? fun e => decide (e.1 = context ∧ e.2.key = key)).map (·.2.target)) := by
  induction entries generalizing index with
  | nil => rw [List.foldl_nil, List.find?_nil, Option.map_none, Option.or_none]
  | cons e entries ih =>
    rw [List.foldl_cons, ih, get?_add, Option.or_assoc]
    by_cases h : e.1 = context ∧ e.2.key = key
    · rw [if_pos h, List.find?_cons_of_pos (by simpa using h)]
      rfl
    · rw [if_neg h, List.find?_cons_of_neg (by simpa using h), Option.none_or]

end Index

/-! ## Layers and chains -/

/-- A layer finds the first message of its catalog that may be shown. -/
theorem Layer.get?_ofCatalog (policy : Policy) (c : Catalog) (context : String) (key : Key) :
    (Layer.ofCatalog policy c).get? context key =
      (c.entries.find? fun e => Answers policy context key e).map (·.2.target) := by
  have hp : (fun e : String × Message => decide (Answers policy context key e)) = fun e =>
      decide (isUsable policy e.2 = true ∧ decide (e.1 = context ∧ e.2.key = key) = true) := by
    funext e
    rw [decide_eq_decide, answers_iff, decide_eq_true_iff]
  unfold Layer.get? Layer.ofCatalog
  rw [Index.get?_foldl_add, Index.get?_empty, Option.none_or, List.find?_filter, hp]

/-- A scan of some catalogs is a scan of one after the other. -/
theorem scan?_eq_findSome? (policy : Policy) (catalogs : List Catalog) (context : String)
    (key : Key) :
    scan? policy catalogs context key =
      catalogs.findSome? fun c =>
        (c.entries.find? fun e => Answers policy context key e).map fun e => (c, e.2) := by
  unfold scan?
  rw [List.find?_flatMap]
  induction catalogs with
  | nil => rfl
  | cons c catalogs ih =>
    rw [List.findSome?_cons, List.findSome?_cons, List.find?_map]
    simp only [Function.comp_def]
    cases c.entries.find? fun e => Answers policy context key e with
    | some e => rfl
    | none => exact ih

/-- A chain finds what a scan finds, with the plural rule of the catalog in which it is found. -/
theorem Chain.get?_ofCatalogs (policy : Policy) (catalogs : List Catalog) (context : String)
    (key : Key) :
    (Chain.ofCatalogs policy catalogs).get? context key =
      (scan? policy catalogs context key).map fun (c, m) =>
        (.ofLocale c.languageCode, m.target) := by
  unfold Chain.get? Chain.ofCatalogs
  rw [List.findSome?_map, scan?_eq_findSome?]
  induction catalogs with
  | nil => rfl
  | cons c catalogs ih =>
    rw [List.findSome?_cons, List.findSome?_cons, Function.comp_apply, Layer.get?_ofCatalog]
    cases c.entries.find? fun e => Answers policy context key e with
    | some e => rfl
    | none => exact ih

theorem Chain.resolve?_ofCatalogs (policy : Policy) (catalogs : List Catalog)
    (context source : String) (comment : Option String) :
    (Chain.ofCatalogs policy catalogs).resolve? context source comment =
      (hit? policy catalogs context source comment).map fun (c, m) =>
        (.ofLocale c.languageCode, m.target) := by
  unfold Chain.resolve? hit?
  simp only [Chain.get?_ofCatalogs, Option.map_or]
  split <;> rfl

/-! ## What is shown -/

/-- What a scan finds has text. -/
theorem isEmpty_of_scan? {policy : Policy} {catalogs : List Catalog} {context : String} {key : Key}
    {c : Catalog} {m : Message} (h : scan? policy catalogs context key = some (c, m)) :
    m.target.isEmpty = false := by
  obtain ⟨⟨c', name, m'⟩, hf, he⟩ := Option.map_eq_some_iff.1 h
  cases he
  have ha : Answers policy context key (name, m) := by simpa using List.find?_some hf
  exact ha.text

theorem isEmpty_of_hit? {policy : Policy} {catalogs : List Catalog} {context source : String}
    {comment : Option String} {c : Catalog} {m : Message}
    (h : hit? policy catalogs context source comment = some (c, m)) :
    m.target.isEmpty = false := by
  rcases Option.or_eq_some_iff.1 h with h | ⟨-, h⟩
  · exact isEmpty_of_scan? h
  · split at h
    · cases h
    · exact isEmpty_of_scan? h

/-- The form of a target for a count: its only text, or the form that a plural rule picks, or the
last one if there are too few. -/
def formFor? (rule : PluralRule) (n : Int) : Target → Option String
  | .single text => some text
  | .plural forms => forms[min (rule.formIndex n) (forms.length - 1)]?

/-- A target with text has a form for every count. -/
theorem exists_formFor? {t : Target} (h : t.isEmpty = false) (rule : PluralRule) (n : Int) :
    ∃ form, formFor? rule n t = some form := by
  cases t with
  | single text => exact ⟨text, rfl⟩
  | plural forms =>
    have hne : forms ≠ [] := by
      rintro rfl
      cases h
    have hl : min (rule.formIndex n) (forms.length - 1) < forms.length := by
      have := List.length_pos_iff.2 hne
      omega
    exact ⟨_, List.getElem?_eq_getElem hl⟩

section Shown
variable {chain : Chain} {context source : String} {comment : Option String} {rule : PluralRule}
  {t : Target}

/-- Without a count the first form with text is shown. -/
theorem Chain.text_of_resolve? (hr : chain.resolve? context source comment = some (rule, t))
    (h : t.isEmpty = false) : t.firstText? = some (chain.text context source comment) := by
  unfold Chain.text Target.firstText?
  rw [hr]
  cases t with
  | single text => simpa [Target.isEmpty] using h
  | plural forms =>
    cases hf : forms.find? (· != "") with
    | some form => simp [hf]
    | none =>
      have he : (Target.plural forms).isEmpty = true := by
        simpa [Target.isEmpty] using hf
      rw [h] at he
      cases he

/-- With a count the form for the count is shown, or the source when that form has no text. -/
theorem Chain.template_of_resolve? (hr : chain.resolve? context source comment = some (rule, t))
    (h : t.isEmpty = false) {n : Int} {form : String} (hf : formFor? rule n t = some form) :
    chain.template context source comment n = if form = "" then source else form := by
  unfold Chain.template
  rw [hr]
  cases t with
  | single text =>
    have hne : text ≠ "" := by simpa [Target.isEmpty] using h
    cases hf
    rw [if_neg hne]
  | plural forms =>
    rw [formFor?] at hf
    simp only [hf]

end Shown

/-- A look-up in a chain of catalogs is a plain scan of the catalogs. Something is found exactly
when the scan hits a message. Without a count the first form of the hit with text is shown. With a
count it is the only text of the hit, or the form that the plural rule of its catalog picks, or the
source where that form is empty; the count is filled in. Without a hit the source is shown. -/
theorem chain_refines_scan (policy : Policy) (catalogs : List Catalog) (context source : String)
    (comment : Option String) (n : Int) :
    let chain := Chain.ofCatalogs policy catalogs
    let hit := hit? policy catalogs context source comment
    (chain.contains context source comment = true ↔ ∃ c m, hit = some (c, m)) ∧
      (∀ c m, hit = some (c, m) →
        m.target.firstText? = some (chain.text context source comment) ∧
          ∃ form, formFor? (.ofLocale c.languageCode) n m.target = some form ∧
            chain.textForCount context source comment n =
              replaceCount (if form = "" then source else form) n) ∧
      (hit = none →
        chain.text context source comment = source ∧
          chain.textForCount context source comment n = replaceCount source n) := by
  intro chain hit
  have hr : chain.resolve? context source comment = hit.map fun (c, m) =>
      (.ofLocale c.languageCode, m.target) := Chain.resolve?_ofCatalogs ..
  refine ⟨?_, ?_, ?_⟩
  · rw [Chain.contains, hr, Option.isSome_map, Option.isSome_iff_exists, Prod.exists]
  · intro c m hm
    have he : m.target.isEmpty = false := isEmpty_of_hit? hm
    rw [hm, Option.map_some] at hr
    obtain ⟨form, hf⟩ := exists_formFor? he (.ofLocale c.languageCode) n
    refine ⟨Chain.text_of_resolve? hr he, form, hf, ?_⟩
    rw [Chain.textForCount, Chain.template_of_resolve? hr he hf]
  · intro hn
    rw [hn, Option.map_none] at hr
    rw [Chain.textForCount, Chain.text, Chain.template, hr]
    exact ⟨rfl, rfl⟩

end MessageCatalog.Lookup
