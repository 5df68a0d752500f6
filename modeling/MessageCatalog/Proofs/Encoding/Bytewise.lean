import MessageCatalog.Encoding.Label
import MessageCatalog.Proofs.Encoding.Readers

/-!
# The bytes as a view of what they are read as

In every encoding with a label but those of Unicode, the bytes of a text, each taken for itself, are
a view of the text (`isViewOf_bytewise`). In ISO-2022-JP this holds as long as no escape sequence
occurs.
-/

namespace MessageCatalog.Encoding

/-! ## Encodings of one byte -/

/-- Where every byte is a character, bytes of ASCII themselves and others one outside ASCII. -/
theorem isViewOf_mapM {char? : UInt8 → Option Char}
    (hplain : ∀ {b c}, b.toNat < 0x80 → char? b = some c → c = ascii b)
    (hother : ∀ {b c}, 0x80 ≤ b.toNat → char? b = some c → isOther c = true)
    {bytes : List UInt8} {s : List Char} (h : bytes.mapM char? = some s) :
    IsViewOf (bytewise bytes) s := by
  induction bytes generalizing s with
  | nil =>
    rw [List.mapM_nil] at h
    cases h
    exact .nil
  | cons b rest ih =>
    rw [List.mapM_cons] at h
    obtain ⟨c, hc, h⟩ := Option.bind_eq_some_iff.1 h
    obtain ⟨t, ht, h⟩ := Option.bind_eq_some_iff.1 h
    cases h
    by_cases hb : b.toNat < 0x80
    · rw [hplain hb hc]
      exact .same (ascii b) (ih ht)
    · have hb : 0x80 ≤ b.toNat := Nat.not_lt.1 hb
      show IsViewOf ([ascii b] ++ bytewise rest) ([c] ++ t)
      refine .of_ne_nil (by simp) (by simp) ?_ ?_ (ih ht)
      · exact fun d hd => List.mem_singleton.1 hd ▸ isEnding_ascii (by omega)
      · exact fun d hd => List.mem_singleton.1 hd ▸ hother hb hc

namespace SingleByte

/-- The upper half of the table has no character of ASCII. -/
def HoldsOthers (e : SingleByte) : Prop :=
  e.upper.toList.all isOther = true

theorem HoldsOthers.isViewOf {e : SingleByte} (he : e.HoldsOthers) {bytes : List UInt8}
    {s : List Char} (h : bytes.mapM e.char? = some s) : IsViewOf (bytewise bytes) s := by
  refine isViewOf_mapM (fun hb hc => ?_) (fun hb hc => ?_) h
  · rw [char?, if_pos hb] at hc
    exact (Option.some.inj hc).symm
  · rw [char?, if_neg (Nat.not_lt.2 hb)] at hc
    have hc := (Option.filter_eq_some_iff.1 hc).1
    exact List.all_eq_true.1 he _ (List.mem_of_getElem? hc)

theorem holdsOthers_join {name : String} {parts : List String}
    (h : (CodeTable.lines parts).all isOther = true) :
    HoldsOthers ⟨name, String.join parts⟩ := by
  rw [HoldsOthers, String.toList_join]
  exact h

theorem all_lines_controls {rest : List String}
    (h : (CodeTable.lines rest).all isOther = true) :
    (CodeTable.lines (controls :: rest)).all isOther = true := by
  have hcontrols : controls.toList.all isOther = true := by decide
  rw [CodeTable.lines, List.flatMap_cons, List.all_append, hcontrols]
  exact h

end SingleByte

section

set_option maxRecDepth 10000

/-- No table of an encoding with a label holds a character of ASCII. -/
theorem holdsOthers_labels :
    ∀ entry ∈ labels, ∀ table, entry.1 = singleByte table → table.HoldsOthers := by
  unfold labels
  repeat' first
    | with_reducible refine List.forall_mem_cons.2 ⟨?_, ?_⟩
    | with_reducible exact List.forall_mem_nil _
  all_goals
    rintro table h
    cases h
  all_goals refine SingleByte.holdsOthers_join ?_
  -- One line after another is checked by itself.
  all_goals repeat' first
    | with_reducible exact CodeTable.all_lines_nil
    | with_reducible refine SingleByte.all_lines_controls ?_
    | with_reducible refine CodeTable.all_lines_cons ?_ ?_
  all_goals decide

end

/-! ## All encodings -/

theorem mem_labels_of_ofLabel? {label : String} {e : Encoding} (h : ofLabel? label = some e) :
    ∃ entry ∈ labels, entry.1 = e := by
  obtain ⟨entry, hentry, rfl⟩ := Option.map_eq_some_iff.1 h
  exact ⟨entry, List.mem_of_find?_eq_some hentry, rfl⟩

/-- In an encoding other than the two of Unicode the bytes are a view of the text. -/
theorem isViewOf_bytewise {label : String} {e : Encoding} (hlabel : ofLabel? label = some e)
    (h8 : e ≠ utf8) (h16 : ∀ order, e ≠ utf16 order) {bytes : List UInt8}
    (hno : e = iso2022Jp → Iso2022Jp.escapeByte ∉ bytes) {s : List Char}
    (h : e.decode? bytes = some s) : IsViewOf (bytewise bytes) s := by
  cases e with
  | utf8 => exact absurd rfl h8
  | utf16 order => exact absurd rfl (h16 order)
  | singleByte table =>
    obtain ⟨entry, hentry, he⟩ := mem_labels_of_ofLabel? hlabel
    exact (holdsOthers_labels entry hentry table he).isViewOf h
  | userDefined =>
    have hm : bytes.mapM (fun b => some (Char.ofNat
        (if b.toNat < 0x80 then b.toNat else 0xF700 + b.toNat))) = some s := by
      rw [← h]
      exact List.mapM_pure
    refine isViewOf_mapM (fun hb hc => ?_) (fun hb hc => ?_) hm
    · rw [if_pos hb] at hc
      exact (Option.some.inj hc).symm
    · rw [if_neg (Nat.not_lt.2 hb)] at hc
      rw [← Option.some.inj hc]
      exact isOther_ofNat (by omega)
  | gbk => exact Gb18030.keepsAscii_reader.isViewOf_read h
  | gb18030 => exact Gb18030.keepsAscii_reader.isViewOf_read h
  | big5 => exact Big5.keepsAscii_reader.isViewOf_read h
  | eucJp => exact EucJp.keepsAscii_reader.isViewOf_read h
  | iso2022Jp =>
    rw [Iso2022Jp.read_eq (hno rfl) h]
    exact .refl _
  | shiftJis => exact ShiftJis.keepsAscii_reader.isViewOf_read h
  | eucKr => exact EucKr.keepsAscii_reader.isViewOf_read h
  | replacement =>
    rw [decode?] at h
    split at h
    · next he =>
      rw [List.isEmpty_iff.1 he, ← Option.some.inj h]
      exact .nil
    · cases h

end MessageCatalog.Encoding
