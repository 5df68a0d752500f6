import MessageCatalog.Proofs.Catalog.Elements
import MessageCatalog.Proofs.Catalog.Skipping

/-!
# Lines in front of a document

Line breaks in front of a document move the place of every fault by as many lines and change nothing
else (`Catalog.parse_newlines`). They are a run of text of their own, which does nothing, so the
pieces behind it are read as they are without it, each at a place that is moved
(`Reading.runAll_moved`).
-/

namespace MessageCatalog

open Markup

/-! ## Places -/

/-- The line of a fault in a document is moved. -/
def ReadFault.moved (count : Nat) : ReadFault → ReadFault
  | .inDocument line fault => .inDocument (line + count) fault
  | fault => fault

theorem byteLength_newlines (count : Nat) : byteLength (List.replicate count '\n') = count := by
  induction count with
  | zero => rfl
  | succ count ih =>
    rw [List.replicate_succ, ← List.singleton_append, byteLength_append, ih, Nat.add_comm]
    rfl

/-- Behind line breaks a place is as many lines further down. -/
theorem lineAt_newlines (count : Nat) (s : List Char) (place : Nat) :
    lineAt (List.replicate count '\n' ++ s) (place + count) = lineAt s place + count := by
  induction count with
  | zero => rfl
  | succ count ih =>
    have hstep : lineAt (List.replicate (count + 1) '\n' ++ s) (place + count + 1) =
        1 + lineAt (List.replicate count '\n' ++ s) (place + count) := rfl
    rw [← Nat.add_assoc, hstep, ih]
    omega

namespace Reading
variable {count : Nat}

/-- The place of a reading, or of the fault that it ends with, is moved. -/
def moved (count : Nat) :
    Except (Nat × DocumentFault) Reading → Except (Nat × DocumentFault) Reading
  | .ok r => .ok { r with place := r.place + count }
  | .error (place, fault) => .error (place + count, fault)

/-- What a piece does is the same at every place. -/
theorem take_moved (r : Reading) (p : Piece) :
    take { r with place := r.place + count } p = moved count (r.take p) := by
  simp only [take, Nat.add_right_comm r.place count]
  cases Event.ofPiece p with
  | error fault => rfl
  | ok e =>
    simp only [mapError_ok, bind, Except.bind]
    cases r.nesting.after e with
    | error fault => rfl
    | ok nesting => cases r.assembly.take e <;> rfl

theorem run_moved (r : Reading) (ps : List Piece) :
    run { r with place := r.place + count } ps = moved count (r.run ps) := by
  induction ps generalizing r with
  | nil => rfl
  | cons p ps ih =>
    rw [run, run, take_moved]
    cases r.take p with
    | error fault => rfl
    | ok r' => exact ih r'

theorem runAll_moved (r : Reading) (k : Cutting) :
    runAll { r with place := r.place + count } k = moved count (r.runAll k) := by
  unfold runAll
  rw [run_moved]
  cases r.run k.finished with
  | error fault => rfl
  | ok r' =>
    simp only [moved, bind, Except.bind, Nat.add_right_comm r'.place count]
    cases k.fault? <;> rfl

/-- Line breaks in front of a document are read as text outside of fields. -/
theorem runAll_newlines (count : Nat) (s : List Char) :
    runAll {} (cut (List.replicate count '\n' ++ '<' :: s)) =
      moved count (runAll {} (cut ('<' :: s))) := by
  have hbare : ∀ c ∈ List.replicate count '\n', c = '\n' := fun c => List.eq_of_mem_replicate
  have hcut : cut (List.replicate count '\n') = ⟨.content, List.replicate count '\n', []⟩ := by
    have hno : '<' ∉ List.replicate count '\n' := fun h => absurd (hbare '<' h) (by decide)
    have h := foldl_step_text hno [] []
    rwa [List.reverse_replicate, List.append_nil] at h
  have hnewlines : run {} (Cutting.finished ⟨.content, List.replicate count '\n', []⟩) =
      .ok { place := count } := by
    refine run_finished_iff.2 ⟨{}, rfl, ?_⟩
    have hplain : '&' ∉ List.replicate count '\n' := fun h => absurd (hbare '&' h) (by decide)
    rw [List.reverse_replicate, take_text (Assembly.unescape_plain hplain), byteLength_newlines,
      Assembly.addText_of_field_eq_none rfl, Nat.zero_add]
  have hbehind : cut (List.replicate count '\n' ++ '<' :: s) =
      (cut ('<' :: s)).behind
        (Cutting.piecesWithText ⟨.content, List.replicate count '\n', []⟩) := by
    rw [cut_append, hcut, List.foldl_cons, cut, List.foldl_cons, ← Cutting.foldl_step_behind]
    rfl
  have hstart : runAll {} (cut (List.replicate count '\n' ++ '<' :: s)) =
      runAll { place := count } (cut ('<' :: s)) := by
    rw [hbehind, runAll, Cutting.finished_behind]
    exact congrArg (· >>= _) (run_append hnewlines _)
  rw [hstart, ← runAll_moved, Nat.zero_add]

end Reading

/-! ## Documents -/

/-- The end of a text is no place in a document. -/
theorem Assembly.finish_moved (a : Assembly) (count : Nat) :
    a.finish.mapError (·.moved count) = a.finish := by
  unfold finish
  cases a.catalog with
  | none => rfl
  | some c =>
    simp only
    split <;> rfl

namespace Catalog

theorem parseChars_newlines (count : Nat) (s : List Char) :
    parseChars (List.replicate count '\n' ++ '<' :: s) =
      (parseChars ('<' :: s)).mapError (·.moved count) := by
  have hmark : dropByteOrderMark (List.replicate count '\n' ++ '<' :: s) =
      List.replicate count '\n' ++ '<' :: s := by
    cases count <;> rfl
  rw [parseChars, hmark, Reading.runAll_newlines, parseChars,
    show dropByteOrderMark ('<' :: s) = '<' :: s from rfl]
  cases Reading.runAll {} (cut ('<' :: s)) with
  | ok r => exact (r.assembly.finish_moved count).symm
  | error fault =>
    simp only [Reading.moved, lineAt_newlines]
    rfl

end Catalog

/-! ## Messages -/

namespace ReadFault

/-- The message of a fault at a line, as characters. -/
theorem line_toList (m : Nat) (s : String) : s!"line {m}: {s}".toList =
    "line ".toList ++ (Nat.toDigits 10 m ++ ':' :: ' ' :: s.toList) := by
  simp [toString, Nat.repr]

/-- A message with a line tells the line and what is behind it. -/
theorem line_inj {m n : Nat} {s t : String} (h : s!"line {m}: {s}" = s!"line {n}: {t}") :
    m = n ∧ s = t := by
  have hdigits (m : Nat) (rest : List Char) :
      (Nat.toDigits 10 m ++ ':' :: rest).takeWhile Char.isAlphanum = Nat.toDigits 10 m ∧
        (Nat.toDigits 10 m ++ ':' :: rest).dropWhile Char.isAlphanum = ':' :: rest := by
    have ha : ∀ c ∈ Nat.toDigits 10 m, c.isAlphanum = true :=
      Text.isAlphanum_of_mem_toDigits (by decide) (by decide) m
    rw [List.takeWhile_append_of_pos ha, List.dropWhile_append_of_pos ha]
    simp
  have h := congrArg String.toList h
  rw [line_toList, line_toList, List.append_cancel_left_eq] at h
  obtain ⟨hm, hs⟩ := hdigits m (' ' :: s.toList)
  obtain ⟨hn, ht⟩ := hdigits n (' ' :: t.toList)
  rw [h, hn] at hm
  rw [h, ht] at hs
  refine ⟨?_, String.toList_inj.1 (by simpa using hs.symm)⟩
  -- The digits are read as either number.
  have hread (k : Nat) (hk : k < m + n + 1) :
      Text.readDigits 10 (m + n + 1) 0 (Nat.toDigits 10 k) = .ok k :=
    Text.readDigits_toDigits (by decide) (by decide) k hk
  have he := hread n (by omega)
  rw [hm, hread m (by omega)] at he
  exact Except.ok.inj he

theorem message_inDocument (line : Nat) (fault : DocumentFault) :
    (inDocument line fault).message = s!"line {line}: {fault.message}" := by
  simp [message, chain]

/-- The message of a fault outside of a document tells no line. -/
theorem message_ne_line {f : ReadFault} (h : ∀ line fault, f ≠ inDocument line fault) (line : Nat)
    (rest : String) : f.message ≠ s!"line {line}: {rest}" := by
  intro he
  have he := congrArg (·.toList.head?) he
  simp only [line_toList] at he
  cases f with
  | inDocument line fault => exact h line fault rfl
  | noRoot | unfinished => cases he
  | _ => simp [message, chain, toString] at he

/-- A message with a line has the line moved, and any other message stays as it is. -/
theorem message_moved (f : ReadFault) (count : Nat) :
    (∀ (line : Nat) (rest : String), f.message = s!"line {line}: {rest}" →
      (f.moved count).message = s!"line {line + count}: {rest}") ∧
    ((∀ (line : Nat) (rest : String), f.message ≠ s!"line {line}: {rest}") →
      (f.moved count).message = f.message) := by
  cases f with
  | inDocument line fault =>
    have hf := message_inDocument line fault
    refine ⟨fun line' rest h => ?_, fun h => absurd hf (h line fault.message)⟩
    obtain ⟨rfl, rfl⟩ := line_inj (hf.symm.trans h)
    exact message_inDocument (line + count) fault
  | _ => exact ⟨fun line rest h => absurd h (message_ne_line (by simp) line rest), fun _ => rfl⟩

end ReadFault

namespace Catalog

/-- A document behind line breaks is read as the document: the catalog is the same, and the message
of a fault has its line moved by as many lines, if it tells one, and is the same otherwise. -/
theorem parse_newlines {d : String} (h : d.toList.head? = some '<') (count : Nat) :
    (∀ c, parse d = .ok c → parse (String.ofList (List.replicate count '\n') ++ d) = .ok c) ∧
    ∀ f, parse d = .error f →
      ∃ g, parse (String.ofList (List.replicate count '\n') ++ d) = .error g ∧
        (∀ (line : Nat) (rest : String), f.message = s!"line {line}: {rest}" →
          g.message = s!"line {line + count}: {rest}") ∧
        ((∀ (line : Nat) (rest : String), f.message ≠ s!"line {line}: {rest}") →
          g.message = f.message) := by
  obtain ⟨s, hs⟩ := List.head?_eq_some_iff.1 h
  have hread : parse (String.ofList (List.replicate count '\n') ++ d) =
      (parse d).mapError (·.moved count) := by
    rw [parse, parse, String.toList_append, String.toList_ofList, hs, parseChars_newlines]
  refine ⟨fun c hc => by rw [hread, hc]; rfl, fun f hf => ⟨f.moved count, ?_, ?_⟩⟩
  · rw [hread, hf]
    rfl
  · exact f.message_moved count

/-- A document, one with a fault in its second line and one without a root, behind three lines. -/
theorem parse_newlines_three :
    parse (String.ofList (List.replicate 3 '\n') ++ "<TS/>") = .ok {} ∧
    (∃ g, parse (String.ofList (List.replicate 3 '\n') ++ "<TS>\n<TS/>") = .error g ∧
      g.message = "line 5: nested <TS> element") ∧
    ∃ g, parse (String.ofList (List.replicate 3 '\n') ++ "<!-- -->") = .error g ∧
      g.message = "no <TS> root element" := by
  have hnested : parse "<TS>\n<TS/>" = .error (.inDocument 2 (.content .nestedRoot)) := by
    decide +kernel
  have hnoRoot : parse "<!-- -->" = .error .noRoot := by decide +kernel
  refine ⟨(parse_newlines rfl 3).1 {} (by decide +kernel), ?_, ?_⟩
  · obtain ⟨g, hg, hline, -⟩ := (parse_newlines rfl 3).2 _ hnested
    exact ⟨g, hg, hline 2 "nested <TS> element" rfl⟩
  · obtain ⟨g, hg, -, hother⟩ := (parse_newlines rfl 3).2 _ hnoRoot
    exact ⟨g, hg, hother fun line rest => ReadFault.message_ne_line (by simp) line rest⟩

end Catalog

end MessageCatalog
