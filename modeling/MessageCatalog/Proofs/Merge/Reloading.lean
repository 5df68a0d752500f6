import MessageCatalog.Proofs.Catalog.Shaping
import MessageCatalog.Proofs.Merge.Unchanged

/-!
# Saving merged catalogs and loading them again

A merge keeps the targets of a catalog in shape, whatever the template holds (`isShaped_sync`), and
a catalog in shape is written and read back as itself (`Reloads`). So nothing that is read, merged,
saved and loaded again can end in a catalog that is lost when it is saved: the invariant
`Session.InShape` is kept by every step, and by every run of them.
-/

namespace MessageCatalog.Merge

open Check

/-! ## One catalog -/

/-- The catalog is read back as itself from its bytes and from its text, and the check of that finds
nothing. -/
structure Reloads (c : Catalog) : Prop where
  bytes : Catalog.parseBytes c.printBytes = .ok c
  text : Catalog.parse c.print = .ok c
  unchanged : roundTrip c = []

theorem roundTrip_eq_nil_iff {c : Catalog} : roundTrip c = [] ↔ c.IsShaped := by
  rw [roundTrip_eq, List.map_eq_nil_iff, List.filter_eq_nil_iff]
  simp [Catalog.IsShaped]

theorem reloads_of_isShaped {c : Catalog} (h : c.IsShaped) : Reloads c where
  bytes := h.parseBytes_eq
  text := h.parse_eq
  unchanged := roundTrip_eq_nil_iff.2 h

/-! ## Sessions -/

/-- A catalog at hand, and the content of the file in which it has been saved. -/
structure Session where
  catalog : Catalog := {}
  file : Option (List UInt8) := none

/-- What can be done with the catalog at hand. -/
inductive Step where
  /-- Read another one in its place. -/
  | parse (bytes : List UInt8)
  /-- Merge it into a template. -/
  | sync (template : Catalog) (options : Options)
  | save
  /-- Read the file again. -/
  | reload

namespace Session

/-- Read a catalog. Bytes that cannot be read leave the one at hand. -/
def read (s : Session) (bytes : List UInt8) : Session :=
  match Catalog.parseBytes bytes with
  | .ok catalog => { s with catalog }
  | .error _ => s

def take (s : Session) : Step → Session
  | .parse bytes => s.read bytes
  | .sync template options => { s with catalog := (Merge.sync s.catalog template options).1 }
  | .save => { s with file := some s.catalog.printBytes }
  | .reload => s.file.elim s s.read

def run (s : Session) (steps : List Step) : Session :=
  steps.foldl take s

/-- The catalog at hand is in shape, and the file holds one that is. -/
structure InShape (s : Session) : Prop where
  catalog : s.catalog.IsShaped
  file : ∀ bytes ∈ s.file, ∃ c : Catalog, c.IsShaped ∧ bytes = c.printBytes

namespace InShape
variable {s : Session}

/-- Whatever is read is in shape. -/
theorem read (h : s.InShape) (bytes : List UInt8) : (s.read bytes).InShape := by
  unfold Session.read
  split
  · next c hc => exact ⟨Catalog.isShaped_of_parseBytes hc, h.file⟩
  · exact h

theorem take (h : s.InShape) (step : Step) : (s.take step).InShape := by
  cases step with
  | parse bytes => exact h.read bytes
  | sync template options => exact ⟨isShaped_sync h.catalog, h.file⟩
  | save =>
    refine ⟨h.catalog, ?_⟩
    rintro _ ⟨⟩
    exact ⟨s.catalog, h.catalog, rfl⟩
  | reload =>
    unfold Session.take
    cases s.file with
    | none => exact h
    | some bytes => exact h.read bytes

theorem run (h : s.InShape) (steps : List Step) : (s.run steps).InShape := by
  induction steps generalizing s with
  | nil => exact h
  | cons step steps ih => exact ih (h.take step)

end InShape

/-! ## What has been saved -/

theorem file_read (s : Session) (bytes : List UInt8) : (s.read bytes).file = s.file := by
  unfold read
  split <;> rfl

theorem file_take {s : Session} {step : Step} (h : step ≠ .save) : (s.take step).file = s.file := by
  cases step with
  | parse bytes => exact s.file_read bytes
  | sync template options => rfl
  | save => exact absurd rfl h
  | reload =>
    unfold take
    cases hf : s.file with
    | none => exact hf
    | some bytes => exact (s.file_read bytes).trans hf

/-- Only saving changes the file. -/
theorem file_run {steps : List Step} (h : .save ∉ steps) (s : Session) :
    (s.run steps).file = s.file := by
  induction steps generalizing s with
  | nil => rfl
  | cons step steps ih =>
    rw [List.mem_cons, not_or] at h
    exact (ih h.2 (s.take step)).trans (file_take (Ne.symm h.1))

/-- A catalog in shape that has been saved is at hand again when the file is loaded, whatever has
been done in between. -/
theorem catalog_reload {s : Session} (h : s.catalog.IsShaped) {steps : List Step}
    (hs : .save ∉ steps) : (((s.take .save).run steps).take .reload).catalog = s.catalog := by
  have hf : ((s.take .save).run steps).file = some s.catalog.printBytes := file_run hs _
  generalize (s.take .save).run steps = t at hf
  unfold take
  dsimp only
  rw [hf, Option.elim_some, read, h.parseBytes_eq]

end Session

/-- What is read is in shape, and a catalog in shape that is merged into any template is in shape
and is read back as itself. So is whatever a session makes of it that reads, merges, saves and loads
catalogs, and what it saves is what it loads. -/
theorem sync_reloads (existing template : Catalog) (options : Options) (h : existing.IsShaped) :
    (∀ bytes c, Catalog.parseBytes bytes = .ok c → c.IsShaped) ∧
      (sync existing template options).1.IsShaped ∧ Reloads (sync existing template options).1 ∧
      ∀ steps, let s := Session.run { catalog := existing } steps
        s.catalog.IsShaped ∧ Reloads s.catalog ∧
          ∀ others, .save ∉ others →
            (((s.take .save).run others).take .reload).catalog = s.catalog := by
  have hsync : (sync existing template options).1.IsShaped := isShaped_sync h
  refine ⟨fun _ _ => Catalog.isShaped_of_parseBytes, hsync, reloads_of_isShaped hsync, ?_⟩
  intro steps s
  have hstart : Session.InShape { catalog := existing } := ⟨h, fun _ hf => by cases hf⟩
  have hs : s.catalog.IsShaped := (hstart.run steps).catalog
  exact ⟨hs, reloads_of_isShaped hs, fun others => Session.catalog_reload hs⟩

/-- A message gets plural forms from a template in which it is not in shape. It is saved with them
and comes back after another merge has taken them away. -/
theorem sync_reloads_plural :
    let merged := (sync plainCatalog pluralTemplate {}).1
    let s := Session.run { catalog := plainCatalog } [.sync pluralTemplate {}]
    plainCatalog.IsShaped ∧ ¬pluralTemplate.IsShaped ∧ merged ≠ plainCatalog ∧
      Reloads merged ∧ s.catalog = merged ∧
      (((s.take .save).run [.sync plainCatalog {}]).take .reload).catalog = merged := by
  intro merged s
  have h : plainCatalog.IsShaped := by decide
  obtain ⟨-, -, hmerged, hsession⟩ := sync_reloads plainCatalog pluralTemplate {} h
  refine ⟨h, by decide, by decide, hmerged, rfl, ?_⟩
  exact (hsession [.sync pluralTemplate {}]).2.2 [.sync plainCatalog {}] (by simp)

end MessageCatalog.Merge
