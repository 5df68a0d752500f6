import MessageCatalog.Catalog.Data
import MessageCatalog.Proofs.Data.Json
import MessageCatalog.Proofs.Lists
import MessageCatalog.Report.Format

/-!
# Exported catalogs

A catalog that is exported as JSON is imported again as it was (`Catalog.ofData_writeData`). Each of
its records is read from its fields, whichever of them have been left out (`fields_namedRecord`).
-/

namespace MessageCatalog

open Data

/-! ## Fields -/

namespace Data

/-- The field with a name, if it has a value. -/
def present (f : String × Option Value) : List Field :=
  field? f.1 f.2 id

@[simp] theorem present_some (name : String) (v : Value) : present (name, some v) = [(name, v)] := rfl

theorem filter_present_self (f : String × Option Value) :
    (present f).filter (·.1 == f.1) = present f := by
  obtain ⟨name, value?⟩ := f
  cases value? <;> simp [present, field?]

theorem filter_present_of_ne {f : String × Option Value} {name : String} (h : f.1 ≠ name) :
    (present f).filter (·.1 == name) = [] := by
  obtain ⟨name', value?⟩ := f
  cases value? <;> simp_all [present, field?]

/-- A name that is not among the names is that of no field. -/
theorem filter_flatMap_eq_nil {named : List (String × Option Value)} {name : String}
    (h : name ∉ named.map (·.1)) : (named.flatMap present).filter (·.1 == name) = [] := by
  induction named with
  | nil => rfl
  | cons f named ih =>
    simp only [List.map_cons, List.mem_cons, not_or] at h
    rw [List.flatMap_cons, List.filter_append, filter_present_of_ne (Ne.symm h.1), ih h.2]
    rfl

/-- The field with a name, when no two names are the same. -/
theorem filter_flatMap_eq_present {named : List (String × Option Value)}
    (h : (named.map (·.1)).Nodup) {f : String × Option Value} (hf : f ∈ named) :
    (named.flatMap present).filter (·.1 == f.1) = present f := by
  induction named with
  | nil => cases hf
  | cons g named ih =>
    obtain ⟨hg, h⟩ := List.nodup_cons.1 h
    rw [List.flatMap_cons, List.filter_append]
    rcases List.mem_cons.1 hf with rfl | hf
    · rw [filter_present_self, filter_flatMap_eq_nil hg, List.append_nil]
    · have hne : g.1 ≠ f.1 := fun he => hg (List.mem_map.2 ⟨f, hf, he.symm⟩)
      rw [filter_present_of_ne hne, ih h hf, List.nil_append]

/-- The record of some names and values, absent ones left out. -/
def namedRecord (named : List (String × Option Value)) : Value :=
  .record (named.flatMap present)

/-- Fields are found by their names, and those that are left out are absent. -/
theorem fields_namedRecord {named : List (String × Option Value)} (h : (named.map (·.1)).Nodup) :
    (Source.fields (named.map (·.1)) (namedRecord named) : Option (List (Option Value))) =
      some (named.map (·.2)) := by
  refine mapM_map_eq_some fun f hf => ?_
  rw [filter_flatMap_eq_present h hf]
  obtain ⟨name, value?⟩ := f
  cases value? <;> rfl

@[simp] theorem reread_field? {α : Type} (name : String) (value? : Option α) (encode : α → Value) :
    (field? name value? encode).map (fun f => (f.1, f.2.reread)) =
      present (name, value?.map fun a => (encode a).reread) := by
  cases value? <;> rfl

section Reading
variable {α : Type} (read : Value → Option α) (v : Value)

theorem required_some : Source.required read (some v) = read v := rfl

theorem orElse_some (default : α) : Source.orElse default read (some v) = read v := rfl

theorem text_text (s : String) : (Source.text (Value.text s) : Option String) = some s := rfl

theorem bool_bool (b : Bool) : (Source.bool (Value.bool b) : Option Bool) = some b := rfl

end Reading

theorem optionalText_map (text? : Option String) :
    (Source.optionalText (text?.map Value.text) : Option (Option String)) = some text? := by
  cases text? <;> rfl

/-- A list is read when each of its items is. -/
theorem listOf_map {α : Type} {encode : α → Value} {read : Value → Option α} {s : List α}
    (h : ∀ a ∈ s, read (encode a) = some a) :
    (Source.listOf read (Value.list (s.map encode)) : Option (List α)) = some s := by
  have hs : (s.map encode).mapM read = some (s.map id) := mapM_map_eq_some h
  rwa [List.map_id] at hs

end Data

/-! ## Parts of a catalog -/

namespace Target

theorem ofData_toData (t : Target) : (ofData t.toData.reread : Option Target) = some t := by
  cases t with
  | single text => rfl
  | plural forms =>
    have h : (Source.listOf Source.text (Value.list ((forms.map Value.text).map Value.reread)) :
        Option (List String)) = some forms := by
      rw [List.map_map]
      exact listOf_map fun _ _ => rfl
    rw [toData, Value.texts, Value.reread_tagged, Value.reread_list]
    exact congrArg (·.bind fun forms => some (plural forms)) h

end Target

namespace Status

theorem ofData_toData (s : Status) : (ofData s.toData.reread : Option Status) = some s := by
  cases s <;> rfl

end Status

namespace Location

/-- The fields of an exported place. -/
def exported (l : Location) : List (String × Option Value) :=
  [("filename", l.filename.map .text), ("line", l.line.map .text)]

theorem reread_toData (l : Location) : l.toData.reread = namedRecord l.exported := by
  simp [toData, namedRecord, exported]

theorem ofData_toData (l : Location) : (ofData l.toData.reread : Option Location) = some l := by
  have h : (Source.fields ["filename", "line"] (namedRecord l.exported) : Option _) =
      some (l.exported.map (·.2)) := fields_namedRecord (by simp [exported])
  rw [reread_toData, ofData, h]
  simp only [exported, List.map_cons, List.map_nil, Option.bind_eq_bind, Option.bind_some,
    optionalText_map]
  rfl

end Location

namespace Message

/-- The places of an exported message, unless it has none. -/
def exportedLocations (m : Message) : Option Value :=
  if m.locations.isEmpty then none
  else some (.list (m.locations.map fun l => namedRecord l.exported))

/-- The fields of an exported message. -/
def exported (m : Message) : List (String × Option Value) :=
  [("id", m.id.map .text), ("numerus", some (.bool m.numerus)),
    ("locations", m.exportedLocations), ("source", some (.text m.source)),
    ("old_source", m.oldSource.map .text), ("comment", m.comment.map .text),
    ("old_comment", m.oldComment.map .text), ("extra_comment", m.extraComment.map .text),
    ("translator_comment", m.translatorComment.map .text),
    ("translation", some m.target.toData.reread), ("status", some m.status.toData.reread)]

theorem reread_locations (m : Message) :
    (if m.locations.isEmpty then []
    else [("locations", Value.list (m.locations.map (·.toData)))]).map
      (fun f => (f.1, f.2.reread)) = present ("locations", m.exportedLocations) := by
  unfold exportedLocations
  split
  · rfl
  · simp [present_some, Location.reread_toData]

theorem reread_toData (m : Message) : m.toData.reread = namedRecord m.exported := by
  rw [toData, Value.reread_record]
  simp only [List.map_append, reread_locations]
  simp [namedRecord, exported]

theorem orElse_exportedLocations (m : Message) :
    (Source.orElse [] (Source.listOf Location.ofData) m.exportedLocations : Option _) =
      some m.locations := by
  unfold exportedLocations
  split
  · next h => rw [List.isEmpty_iff.1 h]; rfl
  · rw [orElse_some]
    exact listOf_map fun l _ => by rw [← Location.reread_toData, Location.ofData_toData]

theorem ofData_toData (m : Message) : (ofData m.toData.reread : Option Message) = some m := by
  have h : (Source.fields fieldNames (namedRecord m.exported) : Option _) =
      some (m.exported.map (·.2)) := fields_namedRecord (by simp [exported])
  rw [reread_toData, ofData, h]
  simp only [exported, List.map_cons, List.map_nil, Option.bind_eq_bind, Option.bind_some,
    optionalText_map, orElse_exportedLocations, orElse_some, required_some, text_text, bool_bool,
    Target.ofData_toData, Status.ofData_toData]
  rfl

end Message

namespace Context

/-- The fields of an exported context. -/
def exported (c : Context) : List (String × Option Value) :=
  [("name", some (.text c.name)), ("comment", c.comment.map .text),
    ("messages", some (.list (c.messages.map (·.toData.reread))))]

theorem reread_toData (c : Context) : c.toData.reread = namedRecord c.exported := by
  simp [toData, namedRecord, exported, Function.comp_def]

theorem ofData_toData (c : Context) : (ofData c.toData.reread : Option Context) = some c := by
  have h : (Source.fields ["name", "comment", "messages"] (namedRecord c.exported) : Option _) =
      some (c.exported.map (·.2)) := fields_namedRecord (by simp [exported])
  rw [reread_toData, ofData, h]
  simp only [exported, List.map_cons, List.map_nil, Option.bind_eq_bind, Option.bind_some,
    optionalText_map, required_some, text_text, listOf_map fun m _ => Message.ofData_toData m]
  rfl

end Context

namespace Catalog

/-- The fields of an exported catalog. -/
def exported (c : Catalog) : List (String × Option Value) :=
  [("version", some (.text c.version)), ("language", c.language.map .text),
    ("source_language", c.sourceLanguage.map .text),
    ("contexts", some (.list (c.contexts.map (·.toData.reread))))]

theorem reread_toData (c : Catalog) : c.toData.reread = namedRecord c.exported := by
  simp [toData, namedRecord, exported, Function.comp_def]

theorem ofData_toData (c : Catalog) : (ofData c.toData.reread : Option Catalog) = some c := by
  have h : (Source.fields ["version", "language", "source_language", "contexts"]
      (namedRecord c.exported) : Option _) = some (c.exported.map (·.2)) :=
    fields_namedRecord (by simp [exported])
  rw [reread_toData, ofData, h]
  simp only [exported, List.map_cons, List.map_nil, Option.bind_eq_bind, Option.bind_some,
    optionalText_map, required_some, text_text, listOf_map fun c _ => Context.ofData_toData c]
  rfl

end Catalog

/-! ## Written catalogs -/

open Json

theorem isReadBack_field? (l : Layout) (name : String) (text? : Option String) :
    ∀ f ∈ field? name text? .text, IsReadBack l f.2 := by
  cases text? with
  | none => exact fun f hf => absurd hf List.not_mem_nil
  | some s => exact List.forall_mem_singleton.2 (isReadBack_text l s)

section Written
variable {l : Layout} (hl : l.IsBlank)
include hl

theorem Target.isReadBack (t : Target) : IsReadBack l t.toData := by
  cases t with
  | single text => exact isReadBack_tagged hl _ (isReadBack_text l text)
  | plural forms =>
    refine isReadBack_tagged hl _ (isReadBack_list hl ?_)
    exact List.forall_mem_map.2 fun s _ => isReadBack_text l s

theorem Location.isReadBack (p : Location) : IsReadBack l p.toData :=
  isReadBack_record hl
    (List.forall_mem_append.2 ⟨isReadBack_field? l _ _, isReadBack_field? l _ _⟩)

theorem Message.isReadBack (m : Message) : IsReadBack l m.toData := by
  have htext := isReadBack_field? l
  have hlocations : ∀ f ∈ (if m.locations.isEmpty then []
      else [("locations", Value.list (m.locations.map (·.toData)))]), IsReadBack l f.2 := by
    split
    · exact fun f hf => absurd hf List.not_mem_nil
    · refine List.forall_mem_singleton.2 (isReadBack_list hl ?_)
      exact List.forall_mem_map.2 fun p _ => p.isReadBack hl
  refine isReadBack_record hl ?_
  simp only [List.forall_mem_append, List.forall_mem_cons, List.not_mem_nil, false_implies,
    implies_true, and_true, and_assoc]
  exact ⟨htext _ _, isReadBack_bool l _, hlocations, isReadBack_text l _, htext _ _, htext _ _,
    htext _ _, htext _ _, htext _ _, m.target.isReadBack hl, isReadBack_text l _⟩

theorem Context.isReadBack (c : Context) : IsReadBack l c.toData := by
  have hmessages : IsReadBack l (.list (c.messages.map (·.toData))) :=
    isReadBack_list hl (List.forall_mem_map.2 fun m _ => m.isReadBack hl)
  refine isReadBack_record hl ?_
  simp only [List.forall_mem_append, List.forall_mem_singleton, and_assoc]
  exact ⟨isReadBack_text l _, isReadBack_field? l _ _, hmessages⟩

theorem Catalog.isReadBack (c : Catalog) : IsReadBack l c.toData := by
  have hcontexts : IsReadBack l (.list (c.contexts.map (·.toData))) :=
    isReadBack_list hl (List.forall_mem_map.2 fun c _ => c.isReadBack hl)
  refine isReadBack_record hl ?_
  simp only [List.forall_mem_append, List.forall_mem_singleton, and_assoc]
  exact ⟨isReadBack_text l _, isReadBack_field? l _ _, isReadBack_field? l _ _, hcontexts⟩

end Written

/-- A catalog that is exported as JSON is imported again as it was. -/
theorem Catalog.ofData_writeData (c : Catalog) :
    (Json.read? (Report.Format.json.writeData c.toData)).bind
      (fun v => (Catalog.ofData v : Option Catalog)) = some c := by
  rw [Report.Format.writeData, read?_pretty (c.isReadBack prettyLayout_isBlank)]
  exact c.ofData_toData

end MessageCatalog
