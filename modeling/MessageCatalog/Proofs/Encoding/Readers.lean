import MessageCatalog.Encoding.Big5
import MessageCatalog.Encoding.EucJp
import MessageCatalog.Encoding.EucKr
import MessageCatalog.Encoding.Gb18030
import MessageCatalog.Encoding.Iso2022Jp
import MessageCatalog.Encoding.ShiftJis
import MessageCatalog.Proofs.Encoding.Lenient
import MessageCatalog.Proofs.Encoding.Tables

/-!
# Readers that keep ASCII

Where no character is incomplete a byte of ASCII stands for itself, and the bytes of a longer
character are none of those that markup ends with. A reader of which this holds
(`ByteReader.KeepsAscii`) reads a text of which the bytes, each taken for itself, are a view
(`KeepsAscii.isViewOf_read`).
-/

namespace MessageCatalog.Encoding

/-! ## Bytes that end nothing -/

theorem toNat_ascii (b : UInt8) : (ascii b).toNat = b.toNat := by
  have hb := b.toNat_lt
  exact Utf8.toNat_char (.inl (by omega))

/-- Only three bytes are what markup ends with. -/
theorem isEnding_ascii {b : UInt8} (h : b.toNat ≠ 0x2D ∧ b.toNat ≠ 0x3E ∧ b.toNat ≠ 0x3F) :
    isEnding (ascii b) = false := by
  simp only [isEnding, Bool.or_eq_false_iff, beq_eq_false_iff_ne, ne_eq, ← Char.toNat_inj,
    toNat_ascii]
  exact ⟨⟨h.2.1, h.2.2⟩, h.1⟩

/-! ## Readers -/

namespace ByteReader

variable {σ : Type} {r : ByteReader σ}

/-- What a byte of a character outside ASCII does: it completes some, or more bytes are needed. -/
inductive Proceeds (r : ByteReader σ) : σ → List Char → Prop
  | complete {chars : List Char} (hne : chars ≠ []) (h : ∀ c ∈ chars, isOther c = true) :
    Proceeds r r.start chars
  | more {next : σ} (h : next ≠ r.start) : Proceeds r next []

theorem Proceeds.single {c : Char} (h : isOther c = true) : r.Proceeds r.start [c] :=
  .complete (List.cons_ne_nil c []) fun _ hd => List.mem_singleton.1 hd ▸ h

/-- The reader agrees with ASCII where no character is incomplete, and takes no other byte for what
markup ends with. -/
structure KeepsAscii (r : ByteReader σ) : Prop where
  plain : ∀ {b : UInt8}, b.toNat < 0x80 → r.step r.start b = some (r.start, [ascii b])
  first : ∀ {b : UInt8} {next : σ} {chars : List Char}, 0x80 ≤ b.toNat →
    r.step r.start b = some (next, chars) → r.Proceeds next chars
  later : ∀ {state : σ} {b : UInt8} {next : σ} {chars : List Char}, state ≠ r.start →
    r.step state b = some (next, chars) → isEnding (ascii b) = false ∧ r.Proceeds next chars
  whole : ∀ {state : σ}, r.mayEnd state = true ↔ state = r.start

/-- What can be held of the bytes of a character in a state. -/
def CanHold (r : ByteReader σ) (state : σ) (held : List Char) : Prop :=
  (state = r.start → held = []) ∧ ∀ c ∈ held, isEnding c = false

theorem canHold_start : r.CanHold r.start [] :=
  ⟨fun _ => rfl, fun _ h => absurd h List.not_mem_nil⟩

/-- A byte stands for itself or is a byte of a character outside ASCII. -/
theorem KeepsAscii.step_cases (hr : r.KeepsAscii) {state next : σ} {b : UInt8}
    {chars : List Char} (h : r.step state b = some (next, chars)) :
    (state = r.start ∧ next = r.start ∧ chars = [ascii b]) ∨
      (isEnding (ascii b) = false ∧ r.Proceeds next chars) := by
  by_cases hs : state = r.start
  · subst hs
    by_cases hb : b.toNat < 0x80
    · rw [hr.plain hb] at h
      cases h
      exact .inl ⟨rfl, rfl, rfl⟩
    · exact .inr ⟨isEnding_ascii (by omega), hr.first (Nat.not_lt.1 hb) h⟩
  · exact .inr (hr.later hs h)

/-- The bytes held and those to come are a view of what is yet to be read. -/
theorem KeepsAscii.isViewOf_readFrom (hr : r.KeepsAscii) {bytes : List UInt8} {state : σ}
    {seen held s : List Char} (hheld : r.CanHold state held)
    (h : r.readFrom state seen bytes = some s) :
    ∃ t, s = seen.reverse ++ t ∧ IsViewOf (held ++ bytewise bytes) t := by
  induction bytes generalizing state seen held with
  | nil =>
    rw [readFrom] at h
    split at h
    · next he =>
      refine ⟨[], ?_, ?_⟩
      · rw [List.append_nil, Option.some.inj h]
      · rw [hheld.1 (hr.whole.1 he)]
        exact .nil
    · cases h
  | cons b rest ih =>
    rw [readFrom] at h
    split at h
    · cases h
    · next next chars hstep =>
      rcases hr.step_cases hstep with ⟨rfl, rfl, rfl⟩ | ⟨hending, hcase⟩
      · obtain ⟨t, rfl, ht⟩ := ih canHold_start h
        refine ⟨ascii b :: t, by simp, ?_⟩
        rw [hheld.1 rfl]
        exact .same (ascii b) ht
      · have hends : ∀ c ∈ held ++ [ascii b], isEnding c = false := fun c hc =>
          (List.mem_append.1 hc).elim (hheld.2 c) fun hc => List.mem_singleton.1 hc ▸ hending
        have hbytes : held ++ bytewise (b :: rest) = held ++ [ascii b] ++ bytewise rest := by
          rw [List.append_assoc]
          rfl
        rw [hbytes]
        cases hcase with
        | complete hne hother =>
          -- What is held is the bytes of these characters.
          obtain ⟨t, rfl, ht⟩ := ih canHold_start h
          refine ⟨chars ++ t, ?_, .of_ne_nil (by simp) hne hends hother ht⟩
          rw [List.reverse_append, List.reverse_reverse, List.append_assoc]
        | more hnext => exact ih ⟨fun hs => absurd hs hnext, hends⟩ h

/-- The bytes are a view of what is read. -/
theorem KeepsAscii.isViewOf_read (hr : r.KeepsAscii) {bytes : List UInt8} {s : List Char}
    (h : r.read bytes = some s) : IsViewOf (bytewise bytes) s := by
  obtain ⟨t, rfl, ht⟩ := hr.isViewOf_readFrom canHold_start h
  exact ht

end ByteReader

/-! ## Encodings of several bytes -/

theorem of_isWithin {low high : Nat} {b : UInt8} (h : isWithin low high b = true) :
    low ≤ b.toNat ∧ b.toNat ≤ high := by
  simpa [isWithin] using h

theorem isOther_katakana? {index : Nat} {c : Char} (h : katakana? index = some c) :
    isOther c = true := by
  unfold katakana? at h
  split at h
  · cases h
    exact isOther_ofNat (by omega)
  · cases h

namespace Big5

theorem isOther_chars? {place : Nat} {chars : List Char} (h : chars? place = some chars) :
    chars ≠ [] ∧ ∀ c ∈ chars, isOther c = true := by
  unfold chars? at h
  repeat' split at h
  case isFalse.isFalse.isFalse.isFalse =>
    obtain ⟨c, hc, rfl⟩ := Option.map_eq_some_iff.1 h
    have hother := CodeTable.holdsOthers_tables.1.char? hc
    exact ⟨List.cons_ne_nil c [], fun d hd => List.mem_singleton.1 hd ▸ hother⟩
  all_goals
    -- A letter and the mark on it.
    cases h
    exact ⟨List.cons_ne_nil _ _, List.all_eq_true.1 rfl⟩

theorem of_twoByteChars? {a b : UInt8} {chars : List Char} (h : twoByteChars? a b = some chars) :
    0x40 ≤ b.toNat ∧ chars ≠ [] ∧ ∀ c ∈ chars, isOther c = true := by
  unfold twoByteChars? at h
  dsimp only at h
  split at h
  · next hb => exact ⟨(of_isWithin hb).1, isOther_chars? h⟩
  split at h
  · next hb => exact ⟨by have := of_isWithin hb; omega, isOther_chars? h⟩
  · cases h

theorem keepsAscii_reader : reader.KeepsAscii where
  plain hb := if_pos hb
  first hb h := by
    simp only [reader, step, if_neg (Nat.not_lt.2 hb)] at h
    split at h
    · cases h
      exact .more nofun
    · cases h
  later {state} {b} {next} {chars} hs h := by
    cases state with
    | none => exact absurd rfl hs
    | some a =>
      obtain ⟨found, hfound, he⟩ := Option.map_eq_some_iff.1 h
      cases he
      obtain ⟨hlow, hne, hother⟩ := of_twoByteChars? hfound
      exact ⟨isEnding_ascii (by omega), .complete hne hother⟩
  whole := Option.isNone_iff_eq_none

end Big5

namespace EucKr

theorem of_twoByteChar? {a b : UInt8} {c : Char} (h : twoByteChar? a b = some c) :
    0x40 ≤ b.toNat ∧ isOther c = true := by
  unfold twoByteChar? at h
  split at h
  · next hb =>
    exact ⟨by have := of_isWithin hb; omega, CodeTable.holdsOthers_tables.2.2.2.2.char? h⟩
  · cases h

theorem keepsAscii_reader : reader.KeepsAscii where
  plain hb := if_pos hb
  first hb h := by
    simp only [reader, step, if_neg (Nat.not_lt.2 hb)] at h
    split at h
    · cases h
      exact .more nofun
    · cases h
  later {state} {b} {next} {chars} hs h := by
    cases state with
    | none => exact absurd rfl hs
    | some a =>
      obtain ⟨c, hc, he⟩ := Option.map_eq_some_iff.1 h
      cases he
      obtain ⟨hlow, hother⟩ := of_twoByteChar? hc
      exact ⟨isEnding_ascii (by omega), .single hother⟩
  whole := Option.isNone_iff_eq_none

end EucKr

namespace ShiftJis

theorem isOther_char? {place : Nat} {c : Char} (h : char? place = some c) : isOther c = true := by
  unfold char? at h
  split at h
  · rw [← Option.some.inj h]
    exact isOther_ofNat (by omega)
  · exact CodeTable.holdsOthers_tables.2.2.1.char? h

theorem of_twoByteChar? {a b : UInt8} {c : Char} (h : twoByteChar? a b = some c) :
    0x40 ≤ b.toNat ∧ isOther c = true := by
  unfold twoByteChar? at h
  dsimp only at h
  split at h
  · next hb => exact ⟨(of_isWithin hb).1, isOther_char? h⟩
  split at h
  · next hb => exact ⟨by have := of_isWithin hb; omega, isOther_char? h⟩
  · cases h

theorem keepsAscii_reader : reader.KeepsAscii where
  plain hb := if_pos (Nat.le_of_lt hb)
  first {b} {next} {chars} hb h := by
    simp only [reader, step] at h
    split at h
    · -- The byte 0x80 is a character by itself.
      cases h
      exact .single (isOther_ascii hb)
    split at h
    · obtain ⟨c, hc, he⟩ := Option.map_eq_some_iff.1 h
      cases he
      exact .single (isOther_katakana? hc)
    split at h
    · cases h
      exact .more nofun
    · cases h
  later {state} {b} {next} {chars} hs h := by
    cases state with
    | none => exact absurd rfl hs
    | some a =>
      obtain ⟨c, hc, he⟩ := Option.map_eq_some_iff.1 h
      cases he
      obtain ⟨hlow, hother⟩ := of_twoByteChar? hc
      exact ⟨isEnding_ascii (by omega), .single hother⟩
  whole := Option.isNone_iff_eq_none

end ShiftJis

namespace EucJp

theorem keepsAscii_reader : reader.KeepsAscii where
  plain hb := if_pos hb
  first {b} {next} {chars} hb h := by
    simp only [reader, step, if_neg (Nat.not_lt.2 hb)] at h
    repeat' split at h
    all_goals
      cases h
      try exact .more nofun
  later {state} {b} {next} {chars} hs h := by
    -- Behind a first byte there are only such as rows and cells have.
    have hpart : isPart b = true → isEnding (ascii b) = false := fun hp =>
      isEnding_ascii (by have := of_isWithin hp; omega)
    cases state with
    | none => exact absurd rfl hs
    | supplementary =>
      simp only [reader, step] at h
      split at h
      · next hp =>
        cases h
        exact ⟨hpart hp, .more nofun⟩
      · cases h
    | katakana =>
      simp only [reader, step] at h
      split at h
      · next hp =>
        obtain ⟨c, hc, he⟩ := Option.map_eq_some_iff.1 h
        cases he
        exact ⟨hpart hp, .single (isOther_katakana? hc)⟩
      · cases h
    | row a =>
      simp only [reader, step] at h
      split at h
      · next hp =>
        obtain ⟨c, hc, he⟩ := Option.map_eq_some_iff.1 h
        cases he
        exact ⟨hpart hp, .single (CodeTable.holdsOthers_tables.2.2.1.char? hc)⟩
      · cases h
    | supplementaryRow a =>
      simp only [reader, step] at h
      split at h
      · next hp =>
        obtain ⟨c, hc, he⟩ := Option.map_eq_some_iff.1 h
        cases he
        exact ⟨hpart hp, .single (CodeTable.holdsOthers_tables.2.2.2.1.char? hc)⟩
      · cases h
  whole := decide_eq_true_iff

end EucJp

namespace Gb18030

theorem isOther_fourByteChar? {number : Nat} {c : Char} (h : fourByteChar? number = some c) :
    isOther c = true := by
  have hranges : ∀ run ∈ ranges, 0x80 ≤ run.2 := by decide +kernel
  have hbest : ∀ (runs : List (Nat × Nat)) (best : Nat × Nat), 0x80 ≤ best.2 →
      (∀ run ∈ runs, 0x80 ≤ run.2) →
      0x80 ≤ (runs.foldl (fun best run => if run.1 ≤ number then run else best) best).2 := by
    intro runs
    induction runs with
    | nil => exact fun best hb _ => hb
    | cons run runs ih =>
      intro best hb hruns
      refine ih _ ?_ fun run hr => hruns run (List.mem_cons_of_mem _ hr)
      dsimp only
      split
      · exact hruns run List.mem_cons_self
      · exact hb
  unfold fourByteChar? at h
  split at h
  · cases h
    rfl
  split at h
  · rw [← Option.some.inj h]
    exact isOther_ofNat (Nat.le_trans (hbest ranges (0, 0x80) (Nat.le_refl _) hranges)
      (Nat.le_add_right _ _))
  split at h
  · rw [← Option.some.inj h]
    exact isOther_ofNat (by omega)
  · cases h

theorem of_twoByteChar? {a b : UInt8} {c : Char} (h : twoByteChar? a b = some c) :
    0x40 ≤ b.toNat ∧ isOther c = true := by
  unfold twoByteChar? at h
  dsimp only at h
  split at h
  · next hb => exact ⟨(of_isWithin hb).1, CodeTable.holdsOthers_tables.2.1.char? h⟩
  split at h
  · next hb =>
    exact ⟨by have := of_isWithin hb; omega, CodeTable.holdsOthers_tables.2.1.char? h⟩
  · cases h

theorem isEnding_of_isDigit {b : UInt8} (h : isDigit b = true) : isEnding (ascii b) = false :=
  isEnding_ascii (by have := of_isWithin h; omega)

theorem keepsAscii_reader : reader.KeepsAscii where
  plain hb := if_pos hb
  first {b} {next} {chars} hb h := by
    simp only [reader, step, if_neg (Nat.not_lt.2 hb)] at h
    split at h
    · -- The sign of the euro is a character by itself.
      cases h
      exact .single rfl
    split at h
    · cases h
      exact .more nofun
    · cases h
  later {state} {b} {next} {chars} hs h := by
    cases state with
    | none => exact absurd rfl hs
    | one a =>
      simp only [reader, step] at h
      split at h
      · next hd =>
        cases h
        exact ⟨isEnding_of_isDigit hd, .more nofun⟩
      · obtain ⟨c, hc, he⟩ := Option.map_eq_some_iff.1 h
        cases he
        obtain ⟨hlow, hother⟩ := of_twoByteChar? hc
        exact ⟨isEnding_ascii (by omega), .single hother⟩
    | two a d =>
      simp only [reader, step] at h
      split at h
      · next hl =>
        cases h
        exact ⟨isEnding_ascii (by have := of_isWithin hl; omega), .more nofun⟩
      · cases h
    | three a d e =>
      simp only [reader, step] at h
      split at h
      · next hd =>
        obtain ⟨c, hc, he⟩ := Option.map_eq_some_iff.1 h
        cases he
        exact ⟨isEnding_of_isDigit hd, .single (isOther_fourByteChar? hc)⟩
      · cases h
  whole := decide_eq_true_iff

end Gb18030

namespace Iso2022Jp

/-- Without escape sequences all characters are those of ASCII. -/
theorem read_eq {bytes : List UInt8} (hno : escapeByte ∉ bytes) {s : List Char}
    (h : reader.read bytes = some s) : s = bytewise bytes := by
  have key : ∀ seen : List Char, reader.readFrom reader.start seen bytes = some s →
      s = seen.reverse ++ bytewise bytes := by
    clear h
    induction bytes with
    | nil =>
      intro seen h
      rw [bytewise, List.map_nil, List.append_nil]
      exact (Option.some.inj h).symm
    | cons b rest ih =>
      intro seen h
      rw [List.mem_cons, not_or] at hno
      have hstep : reader.step reader.start b = none ∨
          reader.step reader.start b = some (reader.start, [ascii b]) := by
        simp only [reader, step, if_neg (Ne.symm hno.1), singleChar?, singleChar?.plain?]
        split
        · next hs => cases hs
        split
        · exact .inr rfl
        · exact .inl rfl
      rcases hstep with hs | hs
      · rw [ByteReader.readFrom, hs] at h
        cases h
      · rw [ByteReader.readFrom, hs] at h
        rw [ih hno.2 _ h]
        simp [bytewise]
  exact key [] h

end Iso2022Jp

end MessageCatalog.Encoding
