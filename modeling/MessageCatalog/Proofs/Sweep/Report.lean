import MessageCatalog.Proofs.Files.FilePath
import MessageCatalog.Proofs.Files.Still
import MessageCatalog.Proofs.Files.Walk
import MessageCatalog.Proofs.Total
import MessageCatalog.Sweep.Basic

/-!
# What a sweep reports

A sweep reports on the files below a directory that look like catalogs, each of them once and in the
order of their paths (`Report.IsExact`). It loads and checks them by itself, and yet every entry
tells what a check of the file finds and what progress the loaded catalog has made
(`Entry.IsExact`). In which order the world lists its files does not matter (`sweep_exact`).
-/

namespace MessageCatalog.Sweep

open Check Files Progress

/-! ## Entries -/

section Entries
variable (v : Validator) (path : FilePath) (content : Except Refusal Bytes)

@[simp] theorem path_ofContent : (Entry.ofContent v path content).path = path := by
  unfold Entry.ofContent
  split <;> rfl

/-- The progress of a file is found out when its catalog can be loaded. -/
theorem progress_ofContent : Progress.ofContent path content =
    (Catalog.ofContent path content).map fun c =>
      (c, .ofFile path (content.toOption.getD []) c) := by
  unfold Progress.ofContent
  cases content with
  | error refusal => rfl
  | ok bytes => cases Catalog.ofContent path (.ok bytes) <;> rfl

/-- A catalog is only loaded from a content that can be read. -/
theorem exists_bytes_of_ofContent {path : FilePath} {content : Except Refusal Bytes} {c : Catalog}
    (h : Catalog.ofContent path content = .ok c) : ∃ bytes, content = .ok bytes := by
  cases content with
  | error refusal => cases h
  | ok bytes => exact ⟨bytes, rfl⟩

theorem fault_ofContent :
    (Entry.ofContent v path content).fault = (FileCheck.ofContent v path content).fault := by
  rw [Entry.ofContent, FileCheck.ofContent, progress_ofContent]
  cases Catalog.ofContent path content <;> rfl

theorem errors_ofContent :
    (Entry.ofContent v path content).errors =
      (FileCheck.ofContent v path content).count .error := by
  rw [Entry.ofContent, FileCheck.ofContent, progress_ofContent]
  cases Catalog.ofContent path content <;> rfl

theorem warnings_ofContent :
    (Entry.ofContent v path content).warnings =
      (FileCheck.ofContent v path content).count .warning := by
  rw [Entry.ofContent, FileCheck.ofContent, progress_ofContent]
  cases Catalog.ofContent path content <;> rfl

/-- Without a fault, the entry has the progress of the catalog that is loaded. -/
theorem overview_ofContent {v : Validator} {path : FilePath} {content : Except Refusal Bytes}
    (h : (Entry.ofContent v path content).fault = none) :
    ∃ c bytes, Catalog.ofContent path content = .ok c ∧ content = .ok bytes ∧
      (Entry.ofContent v path content).overview = some (.ofFile path bytes c) := by
  rw [Entry.ofContent, progress_ofContent] at h ⊢
  cases hc : Catalog.ofContent path content with
  | error fault =>
    rw [hc] at h
    cases h
  | ok c =>
    obtain ⟨bytes, rfl⟩ := exists_bytes_of_ofContent hc
    exact ⟨c, bytes, rfl, rfl, rfl⟩

end Entries

/-! ## Reports -/

/-- The files with the ending of catalogs. -/
def candidates (paths : List FilePath) : List FilePath :=
  paths.filter (·.extension? = some ending)

/-- The files that look like catalogs. -/
def catalogs (read : FilePath → Except Refusal Bytes) (paths : List FilePath) : List FilePath :=
  (candidates paths).filter fun p => isCatalog (read p)

theorem catalogs_eq (read : FilePath → Except Refusal Bytes) (paths : List FilePath) :
    catalogs read paths =
      paths.filter fun p => p.extension? = some ending ∧ isCatalog (read p) := by
  rw [catalogs, candidates, List.filter_filter]
  exact List.filter_congr fun p _ => by simp [Bool.and_comm]

theorem mem_of_mem_catalogs {read : FilePath → Except Refusal Bytes} {paths : List FilePath}
    {p : FilePath} (h : p ∈ catalogs read paths) : p ∈ paths :=
  (List.mem_filter.1 (List.mem_filter.1 h).1).1

theorem areDistinct_catalogs {paths : List FilePath} (h : FilePath.AreDistinct paths)
    (read : FilePath → Except Refusal Bytes) : FilePath.AreDistinct (catalogs read paths) :=
  h.sublist (List.filter_sublist.trans List.filter_sublist)

/-- A report is made from the paths of the catalogs alone. -/
theorem ofContents_eq (v : Validator) (d : FilePath) (read : FilePath → Except Refusal Bytes)
    (paths : List FilePath) :
    ofContents v d ((candidates paths).map fun p => (p, read p)) =
      { directory := d
        found := (catalogs read paths).length
        skipped := (candidates paths).length - (catalogs read paths).length
        results := ((catalogs read paths).mergeSort FilePath.le).map fun p =>
          .ofContent v p (read p) } := by
  have hsort : (((candidates paths).map fun p => (p, read p)).filter fun f =>
      isCatalog f.2).mergeSort (fun a b => a.1.le b.1) =
        ((catalogs read paths).mergeSort FilePath.le).map fun p => (p, read p) := by
    rw [List.filter_map]
    exact (List.map_mergeSort (r := FilePath.le) (f := fun p => (p, read p))
      fun _ _ _ _ => rfl).symm
  simp only [ofContents, hsort, List.length_map, List.length_mergeSort, List.map_map]
  rfl

/-! ## Worlds -/

section Worlds
variable {σ σ' : Type} [Access (StateM σ)] [Access (StateM σ')]

/-- The entry tells what a check of its file finds in a world, and when the file can be loaded, what
progress the catalog has made. -/
structure Entry.IsExact (v : Validator) (s : σ) (e : Entry) : Prop where
  check : ∃ f : FileCheck, (checkFiles v [e.path] : StateM σ _).run s = ({ files := [f] }, s) ∧
    e.fault = f.fault ∧
    (e.fault = none → e.errors = f.count .error ∧ e.warnings = f.count .warning)
  overview : e.fault = none → ∃ c bytes,
    (loadCatalog e.path : StateM σ _).run s = (.ok c, s) ∧
      (Access.read e.path : StateM σ _).run s = (.ok bytes, s) ∧
      e.overview = some { Overview.ofCatalog c with
        path := some e.path.name, digest := some (Digest.hexDigest bytes) }

/-- The report tells of every file below a directory that looks like a catalog. -/
structure Report.IsExact (v : Validator) (s : σ) (d : FilePath) (r : Report) : Prop where
  directory : r.directory = d
  increasing : (r.results.map (·.path)).Pairwise FilePath.IsBefore
  complete : (r.results.map (·.path)).Perm ((belowIn s d).filter fun p =>
    p.extension? = some ending ∧ isCatalog (readIn s p))
  found : r.found = r.results.length
  skipped : r.found + r.skipped = ((belowIn s d).filter (·.extension? = some ending)).length
  entries : ∀ e ∈ r.results, e.IsExact v s
  messages : r.messages = total (r.results.map fun e => (e.overview.map (·.messageCount)).getD 0)
  errors : r.errors = total (r.results.map fun e => e.errors + if e.fault.isSome then 1 else 0)
  warnings : r.warnings = total (r.results.map (·.warnings))

theorem Entry.isExact_ofContent {s : σ} (hs : Still s) (v : Validator) (p : FilePath) :
    (Entry.ofContent v p (readIn s p)).IsExact v s where
  check := by
    refine ⟨FileCheck.ofContent v p (readIn s p), ?_, fault_ofContent .., fun _ =>
      ⟨errors_ofContent .., warnings_ofContent ..⟩⟩
    rw [path_ofContent, checkFiles]
    exact run_bind_of_eq (hs.run_mapM (FileCheck.ofContent v) [p]) _
  overview h := by
    obtain ⟨c, bytes, hc, hbytes, ho⟩ := overview_ofContent h
    rw [path_ofContent]
    exact ⟨c, bytes, by rw [hs.run_loadCatalog, hc], by rw [hs.run_read, hbytes], ho⟩

/-- A sweep of a directory that is there. -/
theorem run_sweep {s : σ} (hs : Still s) (v : Validator) {d : FilePath}
    (hd : kindIn? s d = some .directory) : (sweep v d : StateM σ _).run s =
      (.ok (ofContents v d ((candidates (belowIn s d)).map fun p => (p, readIn s p))), s) := by
  unfold sweep
  rw [run_bind_of_eq (hs.run_kind? d), if_neg (not_not.2 hd), run_bind_of_eq (hs.run_below d)]
  exact run_bind_of_eq (hs.run_mapM Prod.mk _) _

/-- The report on the files below a directory. -/
theorem isExact_ofContents {s : σ} (hs : Still s) (v : Validator) {d : FilePath}
    (h : FilePath.AreDistinct (belowIn s d)) :
    (ofContents v d ((candidates (belowIn s d)).map fun p => (p, readIn s p))).IsExact v s d := by
  rw [ofContents_eq]
  have hpaths : (((catalogs (readIn s) (belowIn s d)).mergeSort FilePath.le).map fun p =>
      Entry.ofContent v p (readIn s p)).map (·.path) =
        (catalogs (readIn s) (belowIn s d)).mergeSort FilePath.le := by
    simp only [List.map_map, Function.comp_def, path_ofContent, List.map_id']
  refine ⟨rfl, ?_, ?_, ?_, ?_, ?_, total_filterMap .., rfl, rfl⟩
  · rw [hpaths]
    exact (areDistinct_catalogs h (readIn s)).pairwise_isBefore
  · rw [hpaths]
    exact (List.mergeSort_perm ..).trans (.of_eq (catalogs_eq ..))
  · simp only [List.length_map, List.length_mergeSort]
  · exact Nat.add_sub_cancel' (List.length_filter_le ..)
  · intro e he
    obtain ⟨p, -, rfl⟩ := List.mem_map.1 he
    exact Entry.isExact_ofContent hs v p

/-- The order in which the files are listed does not matter. -/
theorem ofContents_eq_of_areAlike {s : σ} {s' : σ'} (v : Validator) {d : FilePath}
    (h : FilePath.AreDistinct (belowIn s d)) (halike : AreAlike d s s') :
    ofContents v d ((candidates (belowIn s d)).map fun p => (p, readIn s p)) =
      ofContents v d ((candidates (belowIn s' d)).map fun p => (p, readIn s' p)) := by
  have hread : catalogs (readIn s) (belowIn s d) = catalogs (readIn s') (belowIn s d) :=
    List.filter_congr fun p hp => by rw [halike.read p (List.mem_filter.1 hp).1]
  have hcandidates : (candidates (belowIn s d)).Perm (candidates (belowIn s' d)) :=
    halike.below.filter _
  have hcatalogs : (catalogs (readIn s) (belowIn s d)).Perm
      (catalogs (readIn s') (belowIn s' d)) := by
    rw [hread]
    exact hcandidates.filter _
  -- Paths that are all different have one order only.
  have hsort := (areDistinct_catalogs h (readIn s)).mergeSort_eq hcatalogs
  rw [ofContents_eq, ofContents_eq, hcatalogs.length_eq, hcandidates.length_eq, ← hsort]
  congr 1
  refine List.map_congr_left fun p hp => ?_
  rw [halike.read p (mem_of_mem_catalogs ((List.mergeSort_perm ..).subset hp))]

/-- A sweep of a directory tells of every file below that looks like a catalog, and what it tells
does not depend on the order in which the files are found. -/
theorem sweep_exact (v : Validator) (d : FilePath) {s : σ} {s' : σ'} (hs : Still s)
    (hs' : Still s') (hd : kindIn? s d = some .directory)
    (h : FilePath.AreDistinct (belowIn s d)) (halike : AreAlike d s s') :
    ∃ r : Report, r.IsExact v s d ∧ (sweep v d : StateM σ _).run s = (.ok r, s) ∧
      (sweep v d : StateM σ' _).run s' = (.ok r, s') := by
  refine ⟨_, isExact_ofContents hs v h, run_sweep hs v hd, ?_⟩
  rw [run_sweep hs' v (halike.kind?.symm.trans hd), ofContents_eq_of_areAlike v h halike]

end Worlds

/-- A catalog, a file that only begins like one, and a program. -/
def mixedTree : Tree where
  entries := [(["po"], .directory), (["po", "de.ts"], .file "<TS></TS>".toUTF8.toList),
    (["po", "app.ts"], .file "export {}".toUTF8.toList),
    (["po", "cut.ts"], .file "<TS>".toUTF8.toList)]

theorem isSound_mixedTree : mixedTree.IsSound where
  nodup := by decide
  names := by
    have hpo : IsEntryName "po" := ⟨by decide, by decide, by decide, by decide⟩
    have hde : IsEntryName "de.ts" := ⟨by decide, by decide, by decide, by decide⟩
    have happ : IsEntryName "app.ts" := ⟨by decide, by decide, by decide, by decide⟩
    have hcut : IsEntryName "cut.ts" := ⟨by decide, by decide, by decide, by decide⟩
    simp [mixedTree, hpo, hde, happ, hcut]

/-- A tree that lists its files from the last to the first is swept alike. -/
theorem sweep_exact_mixedTree : ∃ r : Report, r.IsExact {} mixedTree ⟨"po"⟩ ∧
    (sweep {} ⟨"po"⟩ : StateM Tree _).run mixedTree = (.ok r, mixedTree) ∧
    (sweep {} ⟨"po"⟩ : StateM Tree _).run ⟨mixedTree.entries.reverse⟩ =
      (.ok r, ⟨mixedTree.entries.reverse⟩) := by
  have halike : AreAlike ⟨"po"⟩ mixedTree (⟨mixedTree.entries.reverse⟩ : Tree) :=
    Tree.areAlike isSound_mixedTree (List.reverse_perm _).symm ⟨"po"⟩
  exact sweep_exact {} ⟨"po"⟩ (Tree.still _) (Tree.still _) (by decide +kernel)
    (Tree.areDistinct_below isSound_mixedTree ⟨"po"⟩) halike

end MessageCatalog.Sweep
