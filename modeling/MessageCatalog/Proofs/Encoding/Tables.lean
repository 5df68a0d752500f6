import MessageCatalog.Encoding.Table.Big5
import MessageCatalog.Encoding.Table.Gb18030
import MessageCatalog.Encoding.Table.JisX0208
import MessageCatalog.Encoding.Table.JisX0212
import MessageCatalog.Encoding.Table.UnifiedHangul
import MessageCatalog.Proofs.Encoding.View

/-!
# What the tables hold

No table of coded characters holds a character of ASCII. The tables are gone through run by run; a
line of a table is looked at as the list of its characters.
-/

namespace MessageCatalog.Encoding.CodeTable

/-! ## Cells -/

/-- No character of ASCII has a place in the table. -/
def HoldsOthers (t : CodeTable) : Prop :=
  ∀ c, some c ∈ t.cells → isOther c = true

theorem HoldsOthers.char? {t : CodeTable} (h : t.HoldsOthers) {place : Nat} {c : Char}
    (hc : t.char? place = some c) : isOther c = true := by
  have hcell : t.cells[place]? = some (some c) := Option.join_eq_some_iff.1 hc
  exact h c (Array.mem_of_getElem? hcell)

theorem mem_foldl_push {cells : Array (Option Char)} {chars : List Char} {c : Char}
    (h : some c ∈ chars.foldl (fun cells c => cells.push (some c)) cells) :
    some c ∈ cells ∨ c ∈ chars := by
  induction chars generalizing cells with
  | nil => exact .inl h
  | cons d chars ih =>
    rcases ih h with h | h
    · rcases Array.mem_push.1 h with h | h
      · exact .inl h
      · exact .inr (List.mem_cons.2 (.inl (Option.some.inj h)))
    · exact .inr (List.mem_cons_of_mem d h)

theorem HoldsOthers.append {t : CodeTable} (h : t.HoldsOthers) {first : Nat} {chars : List Char}
    (hchars : chars.all isOther = true) : (t.append first chars).HoldsOthers := by
  intro c hc
  rcases mem_foldl_push hc with hc | hc
  · rcases Array.mem_append.1 hc with hc | hc
    · exact h c hc
    · cases Array.eq_of_mem_replicate hc
  · exact List.all_eq_true.1 hchars c hc

/-! ## Runs -/

/-- No run has a character of ASCII in it. -/
def RunsOfOthers (runs : List (Nat × List Char)) : Prop :=
  ∀ run ∈ runs, run.2.all isOther = true

theorem holdsOthers_ofRuns {runs : List (Nat × List Char)} (h : RunsOfOthers runs) :
    (ofRuns runs).HoldsOthers := by
  have key : ∀ (t : CodeTable), t.HoldsOthers → RunsOfOthers runs →
      (runs.foldl (fun t run => t.append run.1 run.2) t).HoldsOthers := by
    induction runs with
    | nil => exact fun t ht _ => ht
    | cons run runs ih =>
      intro t ht hruns
      refine ih (fun r hr => h r (List.mem_cons_of_mem _ hr)) _ ?_ fun r hr =>
        hruns r (List.mem_cons_of_mem _ hr)
      exact ht.append (hruns run List.mem_cons_self)
  exact key _ (fun c hc => absurd hc (Array.not_mem_empty _)) h

theorem runsOfOthers_nil : RunsOfOthers [] := fun _ h => absurd h List.not_mem_nil

theorem runsOfOthers_cons {first : Nat} {chars : List Char} {runs : List (Nat × List Char)}
    (hchars : chars.all isOther = true) (h : RunsOfOthers runs) :
    RunsOfOthers ((first, chars) :: runs) := by
  intro run hr
  rcases List.mem_cons.1 hr with rfl | hr
  · exact hchars
  · exact h run hr

theorem all_lines_nil : (lines []).all isOther = true := rfl

theorem all_lines_cons {line : List Char} {rest : List String} (hline : line.all isOther = true)
    (h : (lines rest).all isOther = true) :
    (lines (String.ofList line :: rest)).all isOther = true := by
  simp only [lines, List.flatMap_cons, String.toList_ofList, List.all_append, Bool.and_eq_true]
  exact ⟨hline, h⟩

theorem all_consecutive {first count : Nat} (h : 0x80 ≤ first) :
    (consecutive first count).all isOther = true := by
  rw [List.all_eq_true]
  intro c hc
  obtain ⟨i, -, rfl⟩ := List.mem_map.1 hc
  exact isOther_ofNat (Nat.le_trans h (Nat.le_add_right first i))

/-! ## The tables -/

section

set_option maxRecDepth 10000

/-- No table holds a character of ASCII. -/
theorem holdsOthers_tables : big5.HoldsOthers ∧ gb18030.HoldsOthers ∧ jisX0208.HoldsOthers ∧
    jisX0212.HoldsOthers ∧ unifiedHangul.HoldsOthers := by
  refine ⟨holdsOthers_ofRuns ?_, holdsOthers_ofRuns ?_, holdsOthers_ofRuns ?_,
    holdsOthers_ofRuns ?_, holdsOthers_ofRuns ?_⟩
  -- One line after another is checked by itself.
  all_goals repeat' first
    | with_reducible exact runsOfOthers_nil
    | with_reducible exact all_lines_nil
    | with_reducible refine runsOfOthers_cons ?_ ?_
    | with_reducible refine all_lines_cons ?_ ?_
    | with_reducible refine all_consecutive ?_
  all_goals decide +kernel

end

end MessageCatalog.Encoding.CodeTable
