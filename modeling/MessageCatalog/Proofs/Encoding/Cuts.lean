import MessageCatalog.Proofs.Utf16
import MessageCatalog.Proofs.Encoding.Bytewise

/-!
# Texts that are cut behind a character of ASCII

Whatever the encoding, a text that is read from bytes is read from some of the first of them up to
each character of ASCII in it (`exists_take_of_decode?`). Behind other characters this need not be
so, as two of them may be written as one.
-/

namespace MessageCatalog.Encoding

/-! ## Readers -/

namespace ByteReader

variable {σ : Type} {r : ByteReader σ}

/-- The bytes may end behind a character, and where a byte completes several characters all of them
are outside ASCII. -/
def EndsBehindAscii (r : ByteReader σ) : Prop :=
  ∀ (state : σ) (b : UInt8) (next : σ) (chars : List Char), r.step state b = some (next, chars) →
    chars = [] ∨ (r.mayEnd next = true ∧ chars.length = 1) ∨ ∀ c ∈ chars, isOther c = true

/-- What has been read is in front of what is read. -/
theorem readFrom_eq_append {bytes : List UInt8} {state : σ} {seen s : List Char}
    (h : r.readFrom state seen bytes = some s) : ∃ t, s = seen.reverse ++ t := by
  induction bytes generalizing state seen with
  | nil =>
    rw [readFrom] at h
    split at h
    · exact ⟨[], by rw [List.append_nil, Option.some.inj h]⟩
    · cases h
  | cons b rest ih =>
    rw [readFrom] at h
    split at h
    · cases h
    · next next chars _ =>
      obtain ⟨t, rfl⟩ := ih h
      exact ⟨chars ++ t, by simp⟩

/-- Up to a character of ASCII a text is read from some of its bytes. -/
theorem EndsBehindAscii.exists_take (hr : r.EndsBehindAscii) {c : Char} (hc : isOther c = false)
    {bytes : List UInt8} {state : σ} {seen lead more : List Char}
    (h : r.readFrom state seen bytes = some (seen.reverse ++ (lead ++ c :: more))) :
    ∃ n, r.readFrom state seen (bytes.take n) = some (seen.reverse ++ (lead ++ [c])) := by
  induction bytes generalizing state seen lead with
  | nil =>
    rw [readFrom] at h
    split at h
    · simpa using Option.some.inj h
    · cases h
  | cons b rest ih =>
    rw [readFrom] at h
    cases hs : r.step state b with
    | none => rw [hs] at h; cases h
    | some p =>
      obtain ⟨next, chars⟩ := p
      rw [hs] at h
      dsimp only at h
      have hstep : ∀ n, r.readFrom state seen ((b :: rest).take (n + 1)) =
          r.readFrom next (chars.reverse ++ seen) (rest.take n) := fun n => by
        rw [List.take_succ_cons, readFrom, hs]
      -- The character is one of those still to come, or has just been completed.
      have hlater : ∀ u, lead = chars ++ u → ∃ n,
          r.readFrom state seen ((b :: rest).take n) = some (seen.reverse ++ (lead ++ [c])) := by
        rintro u rfl
        have hrest : r.readFrom next (chars.reverse ++ seen) rest =
            some ((chars.reverse ++ seen).reverse ++ (u ++ c :: more)) := by
          rw [h]
          simp
        obtain ⟨n, hn⟩ := ih hrest
        exact ⟨n + 1, by rw [hstep, hn]; simp⟩
      obtain ⟨t, ht⟩ := readFrom_eq_append h
      have ht : lead ++ c :: more = chars ++ t := by simpa using ht
      rcases List.append_eq_append_iff.1 ht with ⟨u, hchars, hu⟩ | ⟨u, hlead, -⟩
      · cases u with
        | nil => exact hlater [] (by rw [hchars]; simp)
        | cons d u =>
          obtain ⟨rfl, -⟩ := List.cons.inj hu
          rcases hr state b next chars hs with hnil | ⟨hend, hone⟩ | hother
          · rw [hchars] at hnil
            simp at hnil
          · rw [hchars, List.length_append, List.length_cons] at hone
            obtain rfl : lead = [] := List.eq_nil_of_length_eq_zero (by omega)
            obtain rfl : u = [] := List.eq_nil_of_length_eq_zero (by omega)
            refine ⟨1, ?_⟩
            rw [hstep, List.take_zero, readFrom, if_pos hend, hchars]
            simp
          · rw [hother c (by rw [hchars]; simp)] at hc
            cases hc
      · exact hlater u hlead

theorem EndsBehindAscii.exists_take_of_read (hr : r.EndsBehindAscii) {c : Char}
    (hc : isOther c = false) {bytes : List UInt8} {lead more : List Char}
    (h : r.read bytes = some (lead ++ c :: more)) :
    ∃ n, r.read (bytes.take n) = some (lead ++ [c]) := by
  have h' : r.readFrom r.start [] bytes = some ([].reverse ++ (lead ++ c :: more)) := h
  exact hr.exists_take hc h'

theorem KeepsAscii.endsBehindAscii (hr : r.KeepsAscii) : r.EndsBehindAscii := by
  intro state b next chars h
  rcases hr.step_cases h with ⟨-, rfl, rfl⟩ | ⟨-, hcase⟩
  · exact .inr (.inl ⟨hr.whole.2 rfl, rfl⟩)
  · cases hcase with
    | complete _ hother => exact .inr (.inr hother)
    | more => exact .inl rfl

end ByteReader

/-- Every byte completes one character at most, and a character that is complete leaves nothing
open. -/
theorem Iso2022Jp.endsBehindAscii_reader : Iso2022Jp.reader.EndsBehindAscii := by
  intro state b next chars h
  simp only [reader, step] at h
  cases hp : state.pending with
  | none =>
    rw [hp] at h
    dsimp only at h
    split at h
    · cases h
      exact .inl rfl
    split at h
    · split at h
      · cases h
        exact .inl rfl
      · cases h
    · obtain ⟨c, -, he⟩ := Option.map_eq_some_iff.1 h
      cases he
      exact .inr (.inl ⟨rfl, rfl⟩)
  | row a =>
    rw [hp] at h
    dsimp only at h
    split at h
    · obtain ⟨c, -, he⟩ := Option.map_eq_some_iff.1 h
      cases he
      exact .inr (.inl ⟨rfl, rfl⟩)
    · cases h
  | escape =>
    rw [hp] at h
    dsimp only at h
    split at h
    · cases h
      exact .inl rfl
    · cases h
  | escapeTo kind =>
    rw [hp] at h
    dsimp only at h
    split at h
    · cases h
    · obtain ⟨set, -, he⟩ := Option.map_eq_some_iff.1 h
      cases he
      exact .inl rfl

/-! ## All encodings -/

theorem mapM_take {char? : UInt8 → Option Char} {bytes : List UInt8} {lead more : List Char}
    (h : bytes.mapM char? = some (lead ++ more)) :
    (bytes.take lead.length).mapM char? = some lead := by
  induction lead generalizing bytes with
  | nil => rfl
  | cons c lead ih =>
    cases bytes with
    | nil =>
      rw [List.mapM_nil] at h
      cases h
    | cons b rest =>
      rw [List.mapM_cons] at h
      obtain ⟨d, hd, h⟩ := Option.bind_eq_some_iff.1 h
      obtain ⟨t, ht, h⟩ := Option.bind_eq_some_iff.1 h
      cases h
      rw [List.length_cons, List.take_succ_cons, List.mapM_cons, hd, ih ht]
      rfl

/-- Up to a character of ASCII a text is read from some of its bytes. -/
theorem exists_take_of_decode? {e : Encoding} {c : Char} (hc : isOther c = false)
    {bytes : List UInt8} {lead more : List Char}
    (h : e.decode? bytes = some (lead ++ c :: more)) :
    ∃ n, e.decode? (bytes.take n) = some (lead ++ [c]) := by
  have hsplit : lead ++ c :: more = lead ++ [c] ++ more := by simp
  cases e with
  | utf8 =>
    rw [decode?, hsplit] at h
    cases hd : Utf8.decode bytes with
    | error fault => rw [hd] at h; cases h
    | ok s =>
      rw [hd] at h
      cases h
      obtain ⟨n, hn⟩ := Utf8.exists_take_of_decode hd
      exact ⟨n, by rw [decode?, hn]; rfl⟩
  | utf16 order =>
    rw [decode?, Utf16.mapM_id_eq_some_iff, hsplit] at h
    obtain ⟨n, hn⟩ := Utf16.exists_take_of_decode h
    exact ⟨n, by rw [decode?, Utf16.mapM_id_eq_some_iff, hn]⟩
  | singleByte table =>
    rw [decode?, hsplit] at h
    exact ⟨_, mapM_take h⟩
  | userDefined =>
    refine ⟨(lead ++ [c]).length, ?_⟩
    rw [decode?, hsplit] at h
    rw [decode?, List.map_take, Option.some.inj h, List.take_left]
  | gbk => exact Gb18030.keepsAscii_reader.endsBehindAscii.exists_take_of_read hc h
  | gb18030 => exact Gb18030.keepsAscii_reader.endsBehindAscii.exists_take_of_read hc h
  | big5 => exact Big5.keepsAscii_reader.endsBehindAscii.exists_take_of_read hc h
  | eucJp => exact EucJp.keepsAscii_reader.endsBehindAscii.exists_take_of_read hc h
  | iso2022Jp => exact Iso2022Jp.endsBehindAscii_reader.exists_take_of_read hc h
  | shiftJis => exact ShiftJis.keepsAscii_reader.endsBehindAscii.exists_take_of_read hc h
  | eucKr => exact EucKr.keepsAscii_reader.endsBehindAscii.exists_take_of_read hc h
  | replacement =>
    rw [decode?] at h
    split at h
    · simpa using Option.some.inj h
    · cases h

end MessageCatalog.Encoding
