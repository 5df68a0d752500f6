import MessageCatalog.Report.Checking
import MessageCatalog.Report.Comparing
import MessageCatalog.Proofs.Check.Errors
import MessageCatalog.Proofs.Compare.Changes
import MessageCatalog.Proofs.Lookup.Markers
import MessageCatalog.Proofs.Merge.Settlement
import MessageCatalog.Proofs.Report.Lines

/-!
# One line for each finding

A finding and a change stand on a line of their own, where their sources and the texts of a change
are quoted, so no line break in these starts another line. The other texts of a line are shown as
they are: the name of a context, a version, a comment, and the form in which something is wrong.
The text of a report has one more line for every line break in these (`linesOf_reports`).
-/

namespace MessageCatalog

open Report

/-! ## Findings -/

namespace Check
variable {c : Catalog} {context : Context} {m : Message} {i : Issue} {form : String}

/-- How many lines a finding takes beyond its own. -/
def Issue.extraLines (i : Issue) : Nat :=
  breaks i.context + breaks i.detail

/-- The messages in the place of a finding. -/
def Issue.subjects (i : Issue) (c : Catalog) : List Message :=
  (c.entries.filter fun e => e.1 = i.context ∧ i.source = some e.2.source).map (·.2)

/-- The texts of which a finding may show one as it is. -/
def Issue.shownTexts (i : Issue) (c : Catalog) : List String :=
  match i.kind with
  | .unsupportedVersion => [c.version]
  | .duplicateMessage => (i.subjects c).map (·.commentKey)
  | .placeholderMismatch | .acceleratorMismatch | .punctuationMismatch =>
    (i.subjects c).flatMap (·.target.forms)
  | _ => []

/-- A finding is about the catalog or about a context of it, and the line breaks in its detail are
those of one text that it shows. -/
structure Issue.IsAbout (i : Issue) (c : Catalog) : Prop where
  context : i.context = "" ∨ ∃ context ∈ c.contexts, i.context = context.name
  detail : breaks i.detail = 0 ∨ ∃ text ∈ i.shownTexts c, breaks i.detail = breaks text

theorem breaks_place (i : Issue) : breaks i.place = breaks i.context := by
  rw [Issue.place]
  split
  -- The source is quoted, so it has no line breaks here.
  · simp
  · split
    · next h => rw [h]; rfl
    · rfl

theorem breaks_line (color : Bool) (i : Issue) : breaks (i.line.render color) = i.extraLines := by
  have hkind : breaks i.kind.name = 0 := by cases i.kind <;> rfl
  simp [Issue.line, Issue.extraLines, breaks_place, hkind]

/-! ### The header -/

theorem isAbout_checkLanguage (hlanguage : breaks c.languageCode = 0)
    (h : i ∈ checkLanguage c) : i.IsAbout c := by
  unfold checkLanguage at h
  split at h
  · rw [List.mem_singleton.1 h]
    exact ⟨.inl rfl, .inl rfl⟩
  · rw [eq_of_mem_ite_not h]
    refine ⟨.inl rfl, .inl ?_⟩
    show breaks ("'" ++ c.languageCode ++ "' is not an ISO 639-1 based locale") = 0
    simp [hlanguage]

theorem isAbout_checkVersion (h : i ∈ checkVersion c) : i.IsAbout c := by
  rw [eq_of_mem_ite_not h]
  refine ⟨.inl rfl, .inr ⟨c.version, List.mem_singleton_self _, ?_⟩⟩
  show breaks ("format version '" ++ c.version ++ "'") = breaks c.version
  simp

/-! ### Contexts and messages -/

/-- What is found in a context and shows no text is about the catalog. -/
theorem isAbout_of_breaks (hc : context ∈ c.contexts) (hcontext : i.context = context.name)
    (hdetail : breaks i.detail = 0) : i.IsAbout c :=
  ⟨.inr ⟨context, hc, hcontext⟩, .inl hdetail⟩

theorem isAbout_checkContextName (hc : context ∈ c.contexts)
    (h : i ∈ checkContextName context) : i.IsAbout c := by
  rw [eq_of_mem_ite h]
  refine isAbout_of_breaks hc rfl ?_
  show breaks ("context with " ++ context.messages.length.repr ++ " messages has no name") = 0
  simp

/-- A message stands in the place of what is found in it. -/
theorem mem_subjects (hc : context ∈ c.contexts) (hm : m ∈ context.messages) (kind : IssueKind)
    (detail : String) :
    m ∈ Issue.subjects { kind, context := context.name, source := some m.source, detail } c :=
  List.mem_map.2 ⟨(context.name, m),
    List.mem_filter.2 ⟨Catalog.mem_entries hc hm, by simp⟩, rfl⟩

theorem isAbout_duplicateIssue (hc : context ∈ c.contexts) (hm : m ∈ context.messages) :
    (duplicateIssue context.name m).IsAbout c := by
  have hcomment : m.commentKey ∈ (duplicateIssue context.name m).shownTexts c :=
    List.mem_map_of_mem (mem_subjects hc hm _ _)
  refine ⟨.inr ⟨context, hc, rfl⟩, .inr ⟨m.commentKey, hcomment, ?_⟩⟩
  rw [duplicateIssue]
  dsimp only
  split
  -- An empty comment is not shown, and has no line breaks either.
  · next he => rw [he]; rfl
  · show breaks ("source appears more than once (comment '" ++ m.commentKey ++ "')") = _
    simp

theorem isAbout_checkDuplicates (hc : context ∈ c.contexts) {seen : List Key} {ms : List Message}
    (hms : ∀ m ∈ ms, m ∈ context.messages) (h : i ∈ checkDuplicates context.name seen ms) :
    i.IsAbout c := by
  induction ms generalizing seen with
  | nil => cases h
  | cons m ms ih =>
    obtain ⟨hm, hms⟩ := List.forall_mem_cons.1 hms
    unfold checkDuplicates at h
    split at h
    · rcases List.mem_cons.1 h with rfl | h
      · exact isAbout_duplicateIssue hc hm
      · exact ih hms h
    · exact ih hms h

theorem isAbout_checkForms (hlanguage : breaks c.languageCode = 0) (hc : context ∈ c.contexts)
    (h : i ∈ checkForms c.languageCode context.name m) : i.IsAbout c := by
  rw [eq_of_mem_ite h]
  refine isAbout_of_breaks hc rfl ?_
  show breaks (m.target.forms.length.repr ++ " plural forms, '" ++ c.languageCode ++ "' uses " ++
    (Language.PluralRule.ofLocale c.languageCode).formCount.repr) = 0
  simp [hlanguage]

/-! ### Forms -/

theorem breaks_of_mem_placeMarkers {s name : String} {numerus : Bool}
    (h : name ∈ Text.placeMarkers s numerus) : breaks name = 0 := by
  obtain ⟨r, rest, -, hr⟩ :=
    (Lookup.mem_markerNames_iff _ _).1 ((Lookup.mem_placeMarkers_iff _ _ _).1 h).1
  rw [breaks_eq_zero_iff]
  rcases Lookup.name_of_markerName? hr with hn | hdigits
  · rw [hn]
    decide
  · intro hn
    cases hdigits _ hn

@[simp] theorem breaks_describeMarkers (s : String) (numerus : Bool) :
    breaks (describeMarkers (Text.placeMarkers s numerus)) = 0 := by
  rw [describeMarkers]
  split
  · rfl
  · refine breaks_intercalate rfl (List.forall_mem_map.2 fun name hname => ?_)
    rw [breaks_append, breaks_of_mem_placeMarkers hname]
    rfl

@[simp] theorem breaks_describeEnding (ending? : Option Text.Punctuation) :
    breaks (describeEnding ending?) = 0 := by
  cases ending? with
  | none => rfl
  | some ending => cases ending <;> rfl

/-- What is found in a form shows this form and no other text. -/
theorem isAbout_checkForm (hc : context ∈ c.contexts) (hm : m ∈ context.messages)
    (hform : form ∈ m.target.forms) (h : i ∈ checkForm context.name m form) : i.IsAbout c := by
  have hshown : ∀ kind detail,
      form ∈ (Issue.subjects { kind, context := context.name, source := some m.source, detail }
        c).flatMap (·.target.forms) :=
    fun kind detail => List.mem_flatMap.2 ⟨m, mem_subjects hc hm kind detail, hform⟩
  simp only [checkForm, List.mem_append] at h
  rcases h with (h | h) | h
  -- Each of the three checks puts the form between words of its own.
  all_goals
    rw [eq_of_mem_ite_not h]
    refine ⟨.inr ⟨context, hc, rfl⟩, .inr ⟨form, hshown _ _, ?_⟩⟩
    simp

theorem isAbout_checkMessage (hlanguage : breaks c.languageCode = 0) (hc : context ∈ c.contexts)
    (hm : m ∈ context.messages) (h : i ∈ checkMessage c.languageCode context.name m) :
    i.IsAbout c := by
  simp only [checkMessage, List.mem_append] at h
  rcases h with (h | h) | h
  · rw [eq_of_mem_ite h]
    exact isAbout_of_breaks hc rfl (by simp)
  · rw [eq_of_mem_ite h]
    exact isAbout_of_breaks hc rfl (by simp)
  · unfold checkTexts at h
    split at h
    · rcases List.mem_append.1 h with h | h
      · exact isAbout_checkForms hlanguage hc h
      · obtain ⟨form, hform, h⟩ := List.mem_flatMap.1 h
        exact isAbout_checkForm hc hm (List.mem_of_mem_filter hform) h
    · cases h

/-! ### All findings -/

theorem isAbout_roundTrip (h : i ∈ roundTrip c) : i.IsAbout c := by
  rw [roundTrip_eq] at h
  obtain ⟨e, he, rfl⟩ := List.mem_map.1 h
  obtain ⟨context, hc, m, -, rfl⟩ := Catalog.exists_of_mem_entries (List.mem_of_mem_filter he)
  exact isAbout_of_breaks hc rfl (by simp [lossIssue])

/-- What is found in a catalog shows texts of this catalog. -/
theorem isAbout_of_mem_validate {v : Validator} (hlanguage : breaks c.languageCode = 0)
    (h : i ∈ v.validate c) : i.IsAbout c := by
  have h := List.mem_of_mem_filter h
  simp only [checkContent, checkContext, List.mem_append, List.mem_flatMap] at h
  rcases h with ((h | h) | ⟨context, hc, (h | h) | ⟨m, hm, h⟩⟩) | h
  · exact isAbout_checkLanguage hlanguage h
  · exact isAbout_checkVersion h
  · exact isAbout_checkContextName hc h
  · exact isAbout_checkDuplicates hc (fun _ hm => hm) h
  · exact isAbout_checkMessage hlanguage hc hm h
  · split at h
    · exact isAbout_roundTrip h
    · cases h

theorem Issue.IsAbout.extraLines_eq_zero (h : i.IsAbout c)
    (hnames : ∀ context ∈ c.contexts, breaks context.name = 0)
    (htexts : ∀ text ∈ i.shownTexts c, breaks text = 0) : i.extraLines = 0 := by
  have hcontext : breaks i.context = 0 := by
    rcases h.context with he | ⟨context, hc, he⟩
    · rw [he]; rfl
    · rw [he, hnames context hc]
  have hdetail : breaks i.detail = 0 := by
    rcases h.detail with he | ⟨text, htext, he⟩
    · exact he
    · rw [he, htexts text htext]
  rw [Issue.extraLines, hcontext, hdetail]

/-! ### The report -/

section Lines
variable {f : FileCheck} {v : Validator} {path : Files.FilePath} {color : Bool}

theorem length_lines (hfault : f.fault = none) : f.lines.length = 2 + max 1 f.issues.length := by
  rw [FileCheck.lines, hfault]
  cases hissues : f.issues with
  | nil => rfl
  | cons i issues =>
    simp only [List.isEmpty_cons, List.length_append, List.length_map, List.length_cons,
      List.length_nil, Bool.false_eq_true, if_false]
    omega

/-- The lines of a file show the line breaks that its findings show. -/
theorem breaksIn_lines (hfault : f.fault = none) (hpath : breaks f.path.name = 0)
    (hlanguage : breaks (f.language.getD "?") = 0) :
    breaksIn color f.lines = total (f.issues.map Issue.extraLines) := by
  have hhead : breaksIn color [emptyLine,
      [styled .strong f.path.name, plain (" [" ++ f.language.getD "?" ++ "]")]] = 0 := by
    simp [emptyLine, hpath, hlanguage]
  rw [FileCheck.lines, hfault, breaksIn_append, hhead, Nat.zero_add]
  dsimp only
  cases hissues : f.issues with
  | nil => simp
  | cons i issues => exact breaksIn_map fun i _ => breaks_line color i

/-- The report on one catalog. -/
def CheckReport.ofCatalog (v : Validator) (path : Files.FilePath) (c : Catalog) : CheckReport where
  files := [{ path, language := c.language, issues := v.validate c }]

theorem length_lines_ofCatalog (v : Validator) (path : Files.FilePath) (c : Catalog) :
    (CheckReport.ofCatalog v path c).lines.length = 5 + max 1 (v.validate c).length := by
  simp only [CheckReport.lines, CheckReport.ofCatalog, List.flatMap_singleton, List.length_append,
    length_lines, List.length_cons, List.length_nil]
  omega

theorem breaksIn_ofCatalog (hpath : breaks path.name = 0)
    (hlanguage : breaks c.languageCode = 0) :
    breaksIn color (CheckReport.ofCatalog v path c).lines =
      total ((v.validate c).map Issue.extraLines) := by
  have hlanguage : breaks (c.language.getD "?") = 0 := by
    cases hl : c.language with
    | none => rfl
    | some language => rwa [Catalog.languageCode, hl] at hlanguage
  have hfile : breaksIn color
      ({ path, language := c.language, issues := v.validate c } : FileCheck).lines = _ :=
    breaksIn_lines rfl hpath hlanguage
  simp [CheckReport.lines, CheckReport.ofCatalog, emptyLine, title, hfile]

/-- The text of the report on one catalog has five lines and one for each finding, or one that says
that there is none, and the lines that findings take beyond their own. -/
theorem takesLines_ofCatalog (v : Validator) (hpath : breaks path.name = 0)
    (hlanguage : breaks c.languageCode = 0) (color : Bool) :
    TakesLines color (CheckReport.ofCatalog v path c).lines (5 + max 1 (v.validate c).length)
      ((v.validate c).map Issue.extraLines) :=
  takesLines_of_breaksIn (length_lines_ofCatalog v path c) (by omega)
    (breaksIn_ofCatalog hpath hlanguage)

end Lines

end Check

/-! ## Changes -/

namespace Compare
variable {base newer : Catalog} {change : Change} {e : String × Message} {color : Bool}

/-- How many lines a change takes beyond its own. -/
def Change.extraLines (change : Change) : Nat :=
  breaks change.context + breaks (change.comment.getD "")

/-- A change of a message has the context and the comment of the message, and a change of its status
names two statuses. -/
structure Change.IsOf (change : Change) (e : String × Message) : Prop where
  context : change.context = e.1
  comment : change.comment.getD "" = e.2.commentKey
  statuses : change.kind = .statusChanged →
    ∃ before after : Status, change.before = some before.name ∧ change.after = some after.name

theorem breaks_place (change : Change) : breaks change.place = change.extraLines := by
  rw [Change.place, Change.extraLines]
  cases change.comment <;> simp

@[simp] theorem breaks_quoteIfAny (text? : Option String) : breaks (quoteIfAny text?) = 0 := by
  cases text? with
  | none => rfl
  | some text => exact breaks_quote text

@[simp] theorem breaks_statusName (s : Status) : breaks s.name = 0 := by
  cases s <;> rfl

theorem breaks_line (h : change.IsOf e) :
    breaks (change.line.render color) = change.extraLines := by
  unfold Change.line
  split
  · simp [breaks_place]
  · simp [breaks_place]
  · simp [breaks_place]
  -- A change of the status alone shows what was before and what is after without quotes.
  · next hkind =>
    obtain ⟨before, after, hbefore, hafter⟩ := h.statuses hkind
    simp [hbefore, hafter, breaks_place]

/-! ### What is told -/

theorem commentKey_eq (m : Message) : (m.comment.filter (· != "")).getD "" = m.commentKey := by
  rw [comment_filter_eq]
  split
  · next he => exact he.symm
  · rfl

theorem isOf_of_ne {kind : ChangeKind} {before after : Option String}
    (hkind : kind ≠ .statusChanged) : (Change.of kind e.1 e.2 before after).IsOf e :=
  ⟨rfl, commentKey_eq e.2, fun h => absurd h hkind⟩

theorem isOf_of_mem_changesOf {index : Index} (h : change ∈ changesOf index e) :
    change.IsOf e := by
  unfold changesOf at h
  split at h
  · rw [List.mem_singleton.1 h]
    exact isOf_of_ne (by decide)
  · next old _ =>
    rcases List.mem_append.1 h with h | h
    · split at h
      · cases h
      · rw [List.mem_singleton.1 h]
        exact isOf_of_ne (by decide)
    · split at h
      · cases h
      · rw [List.mem_singleton.1 h]
        exact ⟨rfl, commentKey_eq e.2, fun _ => ⟨old.status, e.2.status, rfl, rfl⟩⟩

/-- Every change is one of a message of the two catalogs. -/
theorem exists_isOf_of_mem_changes (h : change ∈ changes base newer) :
    ∃ e ∈ base.entries ++ newer.entries, change.IsOf e := by
  rw [changes_eq] at h
  rcases List.mem_append.1 h with h | h
  · obtain ⟨e, he, h⟩ := List.mem_flatMap.1 h
    exact ⟨e, List.mem_append_right _ he, isOf_of_mem_changesOf h⟩
  · obtain ⟨e, he, rfl⟩ := List.mem_map.1 h
    exact ⟨e, List.mem_append_left _ (List.mem_of_mem_filter he), isOf_of_ne (by decide)⟩

theorem extraLines_eq_zero (h : change ∈ changes base newer)
    (htexts : ∀ e ∈ base.entries ++ newer.entries, breaks e.1 = 0 ∧ breaks e.2.commentKey = 0) :
    change.extraLines = 0 := by
  obtain ⟨e, he, hchange⟩ := exists_isOf_of_mem_changes h
  rw [Change.extraLines, hchange.context, hchange.comment, (htexts e he).1, (htexts e he).2]

/-! ### The report -/

section Lines
variable {baseLabel newerLabel : String}

theorem length_lines (comparison : Comparison) :
    comparison.lines.length = 5 + comparison.changes.length := by
  rw [Comparison.lines]
  cases h : comparison.changes with
  | nil => simp [Comparison.isEmpty, h]
  | cons change changes =>
    simp [Comparison.isEmpty, h]
    omega

theorem breaksIn_lines (hbase : breaks baseLabel = 0) (hnewer : breaks newerLabel = 0) :
    breaksIn color (Comparison.ofCatalogs base newer baseLabel newerLabel).lines =
      total ((changes base newer).map Change.extraLines) := by
  have hlines : breaksIn color ((changes base newer).map Change.line) =
      total ((changes base newer).map Change.extraLines) := by
    refine breaksIn_map fun change hchange => ?_
    obtain ⟨e, -, h⟩ := exists_isOf_of_mem_changes hchange
    exact breaks_line h
  have hempty : (Comparison.ofCatalogs base newer baseLabel newerLabel).isEmpty =
    (changes base newer).isEmpty := rfl
  rw [Comparison.lines, breaksIn_append, hempty]
  cases hchanges : changes base newer with
  | nil => simp [Comparison.ofCatalogs, title, hbase, hnewer]
  | cons change rest =>
    rw [← hchanges, ← hlines]
    simp [Comparison.ofCatalogs, emptyLine, title, hchanges, hbase, hnewer]

/-- The text of a comparison has five lines and one for each change, and the lines that changes take
beyond their own. -/
theorem takesLines_ofCatalogs (base newer : Catalog) (hbase : breaks baseLabel = 0)
    (hnewer : breaks newerLabel = 0) (color : Bool) :
    TakesLines color (Comparison.ofCatalogs base newer baseLabel newerLabel).lines
      (5 + (changes base newer).length) ((changes base newer).map Change.extraLines) :=
  takesLines_of_breaksIn (length_lines _) (by omega) (breaksIn_lines hbase hnewer)

end Lines

end Compare

/-! ## Both reports -/

namespace Report

open Check Compare

/-- A finding takes one line of the text of a report, and one more for each line break in the name
of its context and in its detail, which are those of one form, comment or version that it shows. A
change takes one line, and one more for each line break in the name of its context and in its
comment. Where these texts have no line breaks there is one line for each finding and each change,
whatever the sources are and whatever the texts of a change are. -/
theorem linesOf_reports (color : Bool) :
    (∀ (v : Validator) (path : Files.FilePath) (c : Catalog),
      breaks path.name = 0 → breaks c.languageCode = 0 →
        TakesLines color (CheckReport.ofCatalog v path c).lines (5 + max 1 (v.validate c).length)
          ((v.validate c).map fun i => breaks i.context + breaks i.detail) ∧
        ((∀ context ∈ c.contexts, breaks context.name = 0) →
          (∀ i ∈ v.validate c, ∀ text ∈ i.shownTexts c, breaks text = 0) →
            OneLineEach color (CheckReport.ofCatalog v path c).lines ∧
              (linesOf (renderLines color (CheckReport.ofCatalog v path c).lines)).length =
                5 + max 1 (v.validate c).length)) ∧
    ∀ (base newer : Catalog) (baseLabel newerLabel : String),
      breaks baseLabel = 0 → breaks newerLabel = 0 →
        TakesLines color (Comparison.ofCatalogs base newer baseLabel newerLabel).lines
          (5 + (changes base newer).length)
          ((changes base newer).map fun change =>
            breaks change.context + breaks (change.comment.getD "")) ∧
        ((∀ e ∈ base.entries ++ newer.entries, breaks e.1 = 0 ∧ breaks e.2.commentKey = 0) →
          OneLineEach color (Comparison.ofCatalogs base newer baseLabel newerLabel).lines ∧
            (linesOf (renderLines color
              (Comparison.ofCatalogs base newer baseLabel newerLabel).lines)).length =
                5 + (changes base newer).length) := by
  constructor
  · intro v path c hpath hlanguage
    have htakes := takesLines_ofCatalog v hpath hlanguage color
    refine ⟨htakes, fun hnames htexts => htakes.of_extras_eq_zero (List.forall_mem_map.2 ?_)⟩
    intro i hi
    exact (isAbout_of_mem_validate hlanguage hi).extraLines_eq_zero hnames (htexts i hi)
  · intro base newer baseLabel newerLabel hbase hnewer
    have htakes := takesLines_ofCatalogs base newer hbase hnewer color
    refine ⟨htakes, fun htexts => htakes.of_extras_eq_zero (List.forall_mem_map.2 ?_)⟩
    intro change hchange
    exact extraLines_eq_zero hchange htexts

/-- A catalog with one message, whose source has two lines. -/
def questionCatalog (comment : Option String) (text : String) : Catalog where
  language := some "de"
  contexts := [
    { name := "Main", messages := [
      { source := "Delete\nthe file?", comment, target := .single text }] }]

/-- A source of two lines is quoted, and so are the texts of a change. -/
theorem linesOf_reports_quoted :
    (breaks "de.ts" = 0 ∧
      (linesOf (renderLines true (CheckReport.ofCatalog {} ⟨"de.ts"⟩
        (questionCatalog none "Datei löschen")).lines)).length = 6) ∧
    OneLineEach true (Comparison.ofCatalogs (questionCatalog none "Datei löschen")
      (questionCatalog none "Datei\nlöschen?") "old" "new").lines := by
  have hshown : ∀ i ∈ validate (questionCatalog none "Datei löschen"),
      ∀ text ∈ i.shownTexts (questionCatalog none "Datei löschen"), breaks text = 0 := by
    rw [validate_eq, roundTrip_eq]
    decide +kernel
  have hcount : (validate (questionCatalog none "Datei löschen")).length = 1 := by
    rw [validate_eq, roundTrip_eq]
    decide +kernel
  obtain ⟨hcheck, hcompare⟩ := linesOf_reports true
  refine ⟨⟨by decide, ?_⟩, ?_⟩
  · have hlines := (hcheck {} ⟨"de.ts"⟩ (questionCatalog none "Datei löschen") (by decide)
      (by decide)).2 (by decide) hshown
    rw [← validate, hcount] at hlines
    exact hlines.2
  · exact ((hcompare _ _ "old" "new" (by decide) (by decide)).2 (by decide)).1

/-- A form that lacks the question mark is shown in a finding, and a comment is shown in a change.
With two lines each of them takes two lines of the text. -/
theorem shown_text_takes_two_lines :
    (breaks "de.ts" = 0 ∧ breaks (questionCatalog none "Datei\nlöschen").languageCode = 0 ∧
      (linesOf (renderLines true (CheckReport.ofCatalog {} ⟨"de.ts"⟩
        (questionCatalog none "Datei\nlöschen")).lines)).length ≠
          5 + max 1 (validate (questionCatalog none "Datei\nlöschen")).length) ∧
    breaks "old" = 0 ∧ breaks "new" = 0 ∧
      (linesOf (renderLines true (Comparison.ofCatalogs {}
        (questionCatalog (some "in the\nmenu") "Datei löschen?") "old" "new").lines)).length ≠
          5 + (changes {} (questionCatalog (some "in the\nmenu") "Datei löschen?")).length := by
  refine ⟨⟨by decide, by decide, ?_⟩, by decide, by decide, ?_⟩
  · have hextra : total ((validate (questionCatalog none "Datei\nlöschen")).map
        Issue.extraLines) = 1 := by
      rw [validate_eq, roundTrip_eq]
      decide +kernel
    rw [(takesLines_ofCatalog {} (by decide) (by decide) true).length, ← validate, hextra]
    omega
  · have hextra : total ((changes {}
        (questionCatalog (some "in the\nmenu") "Datei löschen?")).map Change.extraLines) = 1 := by
      rw [changes_eq, changesOf_ofCatalog]
      decide +kernel
    rw [(takesLines_ofCatalogs _ _ (by decide) (by decide) true).length, hextra]
    omega

end Report

end MessageCatalog
