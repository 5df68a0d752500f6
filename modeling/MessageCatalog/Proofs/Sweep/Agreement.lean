import MessageCatalog.Command.Run
import MessageCatalog.Proofs.Sweep.Report

/-!
# Checks and sweeps of the same files

A check of the catalogs below a directory and a sweep of the directory load and validate them apart
from each other. They count the same errors and warnings, but for the files that cannot be loaded:
a sweep counts an error for each of them, and so does the verdict of a check, while the number of
errors in a check and its summary leave them out (`check_sweep_agree`).
-/

namespace MessageCatalog

namespace Check

/-! ## The highest severity -/

theorem le_rank_max {n : Nat} {a b : Severity} :
    n ≤ (a.max b).rank ↔ n ≤ a.rank ∨ n ≤ b.rank := by
  unfold Severity.max
  split <;> omega

/-- The highest of some severities reaches a rank when one of them does. -/
theorem le_rank_foldl_max {n : Nat} (s : List Severity) (a : Severity) :
    n ≤ (s.foldl Severity.max a).rank ↔ n ≤ a.rank ∨ ∃ b ∈ s, n ≤ b.rank := by
  induction s generalizing a with
  | nil => simp
  | cons b s ih => simp [ih, le_rank_max, or_assoc]

theorem any_highest? {n : Nat} (s : List Severity) :
    (highest? s).any (fun worst => decide (n ≤ worst.rank)) = true ↔ ∃ a ∈ s, n ≤ a.rank := by
  cases s with
  | nil => simp [highest?]
  | cons a s => simp [highest?, le_rank_foldl_max]

namespace CheckReport

/-- How many files could not be loaded. -/
def faultCount (r : CheckReport) : Nat :=
  r.files.countP (·.fault.isSome)

/-- A check fails when a finding reaches the threshold, or when a file could not be loaded. -/
theorem fails_iff (r : CheckReport) (threshold : Severity) :
    r.fails threshold = true ↔
      0 < r.faultCount ∨ ∃ severity, threshold.rank ≤ severity.rank ∧ 0 < r.count severity := by
  have hhighest : threshold.rank ≤ Severity.error.rank := by cases threshold <;> decide
  simp only [fails, worst?, any_highest?, List.mem_flatMap, FileCheck.severities, List.mem_append,
    List.mem_map, Option.mem_toList, faultCount, List.countP_pos_iff, count, total_pos_iff,
    FileCheck.count, Check.count, decide_eq_true_eq]
  constructor
  · rintro ⟨severity, ⟨f, hf, ⟨i, hi, rfl⟩ | ⟨fault, hfault, -⟩⟩, hreached⟩
    · exact .inr ⟨i.severity, hreached, f, hf, i, hi, rfl⟩
    · exact .inl ⟨f, hf, Option.isSome_iff_exists.2 ⟨fault, hfault⟩⟩
  · rintro (⟨f, hf, hfault⟩ | ⟨severity, hreached, f, hf, i, hi, rfl⟩)
    · obtain ⟨fault, hfault⟩ := Option.isSome_iff_exists.1 hfault
      exact ⟨.error, ⟨f, hf, .inr ⟨fault, hfault, rfl⟩⟩, hhighest⟩
    · exact ⟨i.severity, ⟨f, hf, .inl ⟨i, hi, rfl⟩⟩, hreached⟩

/-- A check for errors fails when there is an error or a file that could not be loaded. -/
theorem fails_error_iff (r : CheckReport) :
    r.fails .error = true ↔ 0 < r.count .error + r.faultCount := by
  have honly : ∀ severity : Severity, Severity.error.rank ≤ severity.rank ↔ severity = .error := by
    intro severity
    cases severity <;> decide
  simp only [fails_iff, honly, exists_eq_left]
  omega

/-- The summary below the findings. -/
def summaryLine (errors warnings notes files : Nat) : Report.Line :=
  [Report.plain ("Summary: " ++ Report.number errors ++ " error(s), " ++ Report.number warnings ++
    " warning(s), " ++ Report.number notes ++ " note(s) in " ++ Report.number files ++
    " file(s)")]

theorem getLast?_lines (r : CheckReport) : r.lines.getLast? =
    some (summaryLine (r.count .error) (r.count .warning) (r.count .note) r.files.length) := by
  rw [lines, List.getLast?_append]
  rfl

end CheckReport

/-! ## Checks in a world -/

open Files

variable {σ : Type} [Access (StateM σ)]

/-- The report on some files as a world has them. -/
def checkIn (v : Validator) (s : σ) (paths : List FilePath) : CheckReport where
  files := paths.map fun p => .ofContent v p (readIn s p)

theorem run_checkFiles {s : σ} (hs : Still s) (v : Validator) (paths : List FilePath) :
    (checkFiles v paths : StateM σ _).run s = (checkIn v s paths, s) :=
  run_bind_of_eq (hs.run_mapM (FileCheck.ofContent v) paths) _

end Check

/-! ## The command -/

namespace Command

open Check Files Report

variable {σ : Type}

theorem run_within {α : Type} {act : StateM σ α} {s s' : σ} {a : α} (h : act.run s = (a, s'))
    (out : String) :
    ((within act : Work (StateM σ) α).run.run out).run s = ((.ok a, out), s') := by
  have hlift : ((within act : Work (StateM σ) α).run.run out).run s =
      (((.ok (act.run s).1 : Except Chain α), out), (act.run s).2) := rfl
  rw [hlift, h]

/-- A check that is printed ends with its verdict. -/
theorem outcomeOf_check [Access (StateM σ)] {s : σ} (hs : Still s) {settings : Settings}
    {v : Validator} (hv : settings.validator = .ok v) (style : Style) (paths : List FilePath)
    (failOn : Option Severity) {wanted : Wanted} (hw : wanted.file = none) :
    (outcomeOf (runTask settings style (.check paths failOn wanted)) : StateM σ _).run s =
      ({ exit := if (checkIn v s paths).fails (failOn.getD settings.failOn) then 1 else 0
         output := (wanted.format.getD style.format).write style.color (checkIn v s paths).lines
           (stamped style.time (checkIn v s paths).toData) ++ "\n" }, s) := by
  have hsetting : (setting settings.validator : Work (StateM σ) Validator) = pure v := by
    rw [setting, hv]
    rfl
  have hwork : ((runTask settings style (.check paths failOn wanted)).run.run "" :
      StateM σ _).run s =
        ((.ok (if (checkIn v s paths).fails (failOn.getD settings.failOn) then .failure
            else .success),
          (wanted.format.getD style.format).write style.color (checkIn v s paths).lines
            (stamped style.time (checkIn v s paths).toData) ++ "\n"), s) := by
    rw [runTask, runCheck, hsetting, pure_bind, ExceptT.run_bind, StateT.run_bind,
      run_bind_of_eq (run_within (run_checkFiles hs v paths) "")]
    simp only [emit, hw]
    exact Prod.ext (Prod.ext rfl (congrArg (· ++ "\n") String.empty_append)) rfl
  unfold outcomeOf
  rw [run_bind_of_eq hwork]
  cases (checkIn v s paths).fails (failOn.getD settings.failOn) <;> rfl

end Command

/-! ## Sweeps -/

namespace Sweep

open Check Files

variable {σ : Type} [Access (StateM σ)]

/-- What a check and a sweep of the same files tell. -/
structure Agree (k : CheckReport) (r : Report) : Prop where
  files : r.found = k.files.length
  /-- The sweep counts an error for each file that could not be loaded. -/
  errors : r.errors = k.count .error + k.faultCount
  warnings : r.warnings = k.count .warning
  fails : k.fails .error = true ↔ 0 < r.errors
  /-- The summary of the check leaves these files out of the errors. -/
  summary : k.lines.getLast? =
    some (CheckReport.summaryLine (r.errors - k.faultCount) r.warnings (k.count .note) r.found)

/-- The catalogs below a directory, whichever comes first. -/
theorem total_results (v : Validator) (d : FilePath) (read : FilePath → Except Refusal Bytes)
    {all paths : List FilePath} (hp : paths.Perm (catalogs read all)) (f : Entry → Nat) :
    total ((ofContents v d ((candidates all).map fun p => (p, read p))).results.map f) =
      total (paths.map fun p => f (.ofContent v p (read p))) := by
  rw [ofContents_eq, List.map_map]
  exact total_eq_of_perm (((List.mergeSort_perm ..).trans hp.symm).map _)

theorem agree_ofContents (v : Validator) (s : σ) (d : FilePath) {paths : List FilePath}
    (hp : paths.Perm (catalogs (readIn s) (belowIn s d))) :
    Agree (checkIn v s paths)
      (ofContents v d ((candidates (belowIn s d)).map fun p => (p, readIn s p))) := by
  generalize hr : ofContents v d ((candidates (belowIn s d)).map fun p => (p, readIn s p)) = r
  have hfiles : r.found = (checkIn v s paths).files.length := by
    rw [← hr, ofContents_eq, checkIn, List.length_map, hp.length_eq]
  have herrors : r.errors = (checkIn v s paths).count .error + (checkIn v s paths).faultCount := by
    have hfaults : total (paths.map fun p =>
        if (Entry.ofContent v p (readIn s p)).fault.isSome then 1 else 0) =
          (checkIn v s paths).faultCount := by
      rw [CheckReport.faultCount, checkIn, List.countP_map]
      exact total_eq_countP fun p _ => by rw [fault_ofContent, Function.comp_apply]
    rw [← hr, Report.errors, total_results v d (readIn s) hp, total_map_add, hfaults]
    simp only [errors_ofContent, CheckReport.count, checkIn, List.map_map, Function.comp_def]
  have hwarnings : r.warnings = (checkIn v s paths).count .warning := by
    rw [← hr, Report.warnings, total_results v d (readIn s) hp]
    simp only [warnings_ofContent, CheckReport.count, checkIn, List.map_map, Function.comp_def]
  exact {
    files := hfiles
    errors := herrors
    warnings := hwarnings
    fails := by rw [CheckReport.fails_error_iff, herrors]
    summary := by
      rw [CheckReport.getLast?_lines, herrors, hwarnings, hfiles, Nat.add_sub_cancel] }

/-- In a world that stands still a check of some files fails for an error or for a file that could
not be loaded, and the command exits accordingly. A sweep of the directory whose catalogs these
files are, in whatever order they are checked, tells the same. -/
theorem check_sweep_agree {s : σ} (hs : Still s) (v : Validator) (paths : List FilePath) :
    ∃ k : CheckReport, (checkFiles v paths : StateM σ _).run s = (k, s) ∧
      (k.fails .error = true ↔ 0 < k.count .error + k.faultCount) ∧
      (∀ settings style failOn wanted, settings.validator = .ok v →
        failOn.getD settings.failOn = .error → wanted.file = none →
          (Command.outcomeOf (Command.runTask settings style (.check paths failOn wanted)) :
            StateM σ _).run s =
              ({ exit := if 0 < k.count .error + k.faultCount then 1 else 0
                 output := (wanted.format.getD style.format).write style.color k.lines
                   (Report.stamped style.time k.toData) ++ "\n" }, s)) ∧
      ∀ d, kindIn? s d = some .directory →
        paths.Perm ((belowIn s d).filter fun p =>
          p.extension? = some ending ∧ isCatalog (readIn s p)) →
            ∃ r, (sweep v d : StateM σ _).run s = (.ok r, s) ∧ Agree k r := by
  have hfails := (checkIn v s paths).fails_error_iff
  refine ⟨checkIn v s paths, run_checkFiles hs v paths, hfails, ?_, ?_⟩
  · intro settings style failOn wanted hv hfailOn hfile
    simp only [Command.outcomeOf_check hs hv style paths failOn hfile, hfailOn, hfails]
  · intro d hd hp
    have hcatalogs : paths.Perm (catalogs (readIn s) (belowIn s d)) := by
      rwa [catalogs_eq]
    exact ⟨_, run_sweep hs v hd, agree_ofContents v s d hcatalogs⟩

/-- The catalogs of the mixed tree, the file that cannot be loaded last. -/
def mixedPaths : List FilePath :=
  [⟨"po/de.ts"⟩, ⟨"po/cut.ts"⟩]

theorem check_sweep_agree_mixedTree :
    ∃ k r, (checkFiles {} mixedPaths : StateM Tree _).run mixedTree = (k, mixedTree) ∧
      (k.fails .error = true ↔ 0 < k.count .error + k.faultCount) ∧
      (Command.outcomeOf (Command.runTask {} ⟨.text, false, ""⟩ (.check mixedPaths none {})) :
        StateM Tree _).run mixedTree =
          ({ exit := if 0 < k.count .error + k.faultCount then 1 else 0
             output := Report.renderLines false k.lines ++ "\n" }, mixedTree) ∧
      (sweep {} ⟨"po"⟩ : StateM Tree _).run mixedTree = (.ok r, mixedTree) ∧ Agree k r := by
  have hd : kindIn? mixedTree ⟨"po"⟩ = some .directory := by decide +kernel
  have hp : mixedPaths.Perm ((belowIn mixedTree ⟨"po"⟩).filter fun p =>
      p.extension? = some ending ∧ isCatalog (readIn mixedTree p)) := by decide +kernel
  obtain ⟨k, hk, hfails, hcommand, hsweep⟩ :=
    check_sweep_agree (Tree.still mixedTree) {} mixedPaths
  obtain ⟨r, hr, hagree⟩ := hsweep ⟨"po"⟩ hd hp
  exact ⟨k, r, hk, hfails, hcommand {} ⟨.text, false, ""⟩ none {} rfl rfl rfl, hr, hagree⟩

/-- A file that cannot be loaded makes the check fail and the sweep count an error, and yet the
check counts none. -/
theorem failing_check_counts_no_error :
    ∃ k r, (checkFiles {} mixedPaths : StateM Tree _).run mixedTree = (k, mixedTree) ∧
      (sweep {} ⟨"po"⟩ : StateM Tree _).run mixedTree = (.ok r, mixedTree) ∧
      k.fails .error = true ∧ k.count .error = 0 ∧ r.errors = 1 := by
  have hd : kindIn? mixedTree ⟨"po"⟩ = some .directory := by decide +kernel
  have hp : mixedPaths.Perm (catalogs (readIn mixedTree) (belowIn mixedTree ⟨"po"⟩)) := by
    decide +kernel
  refine ⟨checkIn {} mixedTree mixedPaths, _, run_checkFiles (Tree.still _) {} mixedPaths,
    run_sweep (Tree.still _) {} hd, ?_, ?_, ?_⟩
  · decide +kernel
  · decide +kernel
  · rw [(agree_ofContents {} mixedTree ⟨"po"⟩ hp).errors]
    decide +kernel

end Sweep

end MessageCatalog
