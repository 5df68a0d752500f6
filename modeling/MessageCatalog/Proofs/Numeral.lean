import Mathlib.Data.Nat.Digits.Defs
import MessageCatalog.Text.Numeral

/-!
# Numerals read back

The digits of a number, in any base up to sixteen, are read as that number, as long as it is below
the limit. No digit is a sign or has a meaning in markup. Other digits may stand for the same number
(`StandsFor`): there may be zeros in front, and letters in upper case.
-/

namespace MessageCatalog.Text

/-! ## Digits -/

theorem digitValue?_digitChar_sixteen : ∀ d < 16, digitValue? 16 (Nat.digitChar d) = some d := by
  decide

/-- The digit of a value has that value. -/
theorem digitValue?_digitChar {base d : Nat} (hb : base ≤ 16) (hd : d < base) :
    digitValue? base (Nat.digitChar d) = some d := by
  have h := digitValue?_digitChar_sixteen d (by omega)
  simp only [digitValue?, Option.filter_eq_some_iff] at h ⊢
  exact ⟨h.1, by simpa using hd⟩

theorem isAlphanum_digitChar : ∀ d < 16, (Nat.digitChar d).isAlphanum = true := by
  decide

/-- The digits of a number in a base up to sixteen are letters and digits of ASCII. -/
theorem isAlphanum_of_mem_toDigits {base : Nat} (h1 : 1 < base) (hb : base ≤ 16) (n : Nat) :
    ∀ c ∈ Nat.toDigits base n, c.isAlphanum = true := by
  induction n using Nat.strongRecOn with
  | ind n ih =>
    rw [Nat.toDigits_eq_if h1]
    split
    · simpa using isAlphanum_digitChar n (by omega)
    · intro c hc
      rcases List.mem_append.1 hc with hc | hc
      · exact ih (n / base) (Nat.div_lt_self (by omega) h1) c hc
      · rw [List.mem_singleton.1 hc]
        exact isAlphanum_digitChar _ (Nat.lt_of_lt_of_le (Nat.mod_lt _ (by omega)) hb)

/-! ## Numbers -/

/-- Digits are read from the left. -/
theorem readDigits_append {base limit value n : Nat} {s : List Char}
    (h : readDigits base limit value s = .ok n) (t : List Char) :
    readDigits base limit value (s ++ t) = readDigits base limit n t := by
  induction s generalizing value with
  | nil =>
    simp only [readDigits, Except.ok.injEq] at h
    rw [h, List.nil_append]
  | cons c s ih =>
    simp only [List.cons_append, readDigits] at h ⊢
    split at h
    · cases h
    · split at h
      · next hlt => rw [if_pos hlt, ih h]
      · cases h

theorem readDigits_digitChar {base limit value d : Nat} (hb : base ≤ 16) (hd : d < base)
    (hl : base * value + d < limit) :
    readDigits base limit value [Nat.digitChar d] = .ok (base * value + d) := by
  simp only [readDigits, digitValue?_digitChar hb hd, if_pos hl]

/-- The digits of a number below the limit are read as the number. -/
theorem readDigits_toDigits {base limit : Nat} (h1 : 1 < base) (hb : base ≤ 16) (n : Nat)
    (hl : n < limit) : readDigits base limit 0 (Nat.toDigits base n) = .ok n := by
  induction n using Nat.strongRecOn with
  | ind n ih =>
    rw [Nat.toDigits_eq_if h1]
    split
    · next hn =>
      have h := readDigits_digitChar hb hn (show base * 0 + n < limit by omega)
      simpa using h
    · next hn =>
      -- The digits in front of the last one are those of the quotient.
      have hlt : n / base < n := Nat.div_lt_self (by omega) h1
      have he : base * (n / base) + n % base = n := Nat.div_add_mod n base
      rw [readDigits_append (ih _ hlt (by omega)),
        readDigits_digitChar hb (Nat.mod_lt _ (by omega)) (by omega), he]

theorem digitValue?_plus (base : Nat) : digitValue? base '+' = none := by
  simp [digitValue?]

/-- What is read as digits is read as a numeral. -/
theorem readNumeral_of_readDigits {base limit n : Nat} {s : List Char} (hs : s ≠ [])
    (h : readDigits base limit 0 s = .ok n) : readNumeral base limit s = .ok n := by
  cases s with
  | nil => exact absurd rfl hs
  | cons c rest =>
    have hc : c ≠ '+' := by
      rintro rfl
      simp [readDigits, digitValue?_plus] at h
    rw [readNumeral.eq_def]
    split <;> simp_all

/-- A number below the limit is read back from its digits. -/
theorem readNumeral_toDigits {base limit n : Nat} (h1 : 1 < base) (hb : base ≤ 16)
    (hl : n < limit) : readNumeral base limit (Nat.toDigits base n) = .ok n :=
  readNumeral_of_readDigits Nat.toDigits_ne_nil (readDigits_toDigits h1 hb n hl)

/-! ## Numbers in any digits -/

/-- The digits stand for the number: there is at least one, zeros may stand in front, and letters
are in either case. -/
def StandsFor (base : Nat) (digits : List Char) (n : Nat) : Prop :=
  digits ≠ [] ∧ ∃ values, List.Forall₂ (fun c d => digitValue? base c = some d) digits values ∧
    Nat.ofDigits base values.reverse = n

/-- Digits are read behind a number as long as what they make of it is below the limit. -/
theorem readDigits_of_forall₂ {base limit value : Nat} (hb : 0 < base) {digits : List Char}
    {values : List Nat} (h : List.Forall₂ (fun c d => digitValue? base c = some d) digits values)
    (hl : base ^ values.length * value + Nat.ofDigits base values.reverse < limit) :
    readDigits base limit value digits =
      .ok (base ^ values.length * value + Nat.ofDigits base values.reverse) := by
  induction h generalizing value with
  | nil => simp [readDigits]
  | @cons c d digits values hc _ ih =>
    have he : base ^ (d :: values).length * value + Nat.ofDigits base (d :: values).reverse =
        base ^ values.length * (base * value + d) + Nat.ofDigits base values.reverse := by
      rw [List.length_cons, List.reverse_cons, Nat.ofDigits_append, Nat.ofDigits_singleton,
        List.length_reverse, pow_succ]
      ring
    rw [he] at hl ⊢
    have hpos : 0 < base ^ values.length := Nat.pow_pos hb
    have hle : base * value + d ≤ base ^ values.length * (base * value + d) :=
      Nat.le_mul_of_pos_left _ hpos
    simp only [readDigits, hc, if_pos (show base * value + d < limit by omega)]
    exact ih hl

/-- A number below the limit is read from any digits that stand for it. -/
theorem StandsFor.readNumeral {base limit n : Nat} {digits : List Char}
    (h : StandsFor base digits n) (hb : 0 < base) (hl : n < limit) :
    readNumeral base limit digits = .ok n := by
  obtain ⟨hne, values, hvalues, rfl⟩ := h
  refine readNumeral_of_readDigits hne ?_
  have hl : base ^ values.length * 0 + Nat.ofDigits base values.reverse < limit := by simpa using hl
  simpa using readDigits_of_forall₂ hb hvalues hl

/-- Digits stand for one number alone. -/
theorem StandsFor.unique {base m n : Nat} {digits : List Char} (hm : StandsFor base digits m)
    (hn : StandsFor base digits n) : m = n := by
  obtain ⟨-, values, hvalues, rfl⟩ := hm
  obtain ⟨-, values', hvalues', rfl⟩ := hn
  suffices h : values = values' by rw [h]
  induction hvalues generalizing values' with
  | nil =>
    cases hvalues'
    rfl
  | cons hc _ ih =>
    cases hvalues' with
    | cons hc' hvalues' => rw [Option.some.inj (hc.symm.trans hc'), ih _ hvalues']

/-- Digits are letters and digits of ASCII. -/
theorem isAlphanum_of_digitValue? {base d : Nat} {c : Char} (h : digitValue? base c = some d) :
    c.isAlphanum = true := by
  obtain ⟨hd, -⟩ := Option.filter_eq_some_iff.1 h
  have hc : (65 ≤ c.toNat ∧ c.toNat ≤ 90 ∨ 97 ≤ c.toNat ∧ c.toNat ≤ 122) ∨
      48 ≤ c.toNat ∧ c.toNat ≤ 57 := by
    by_contra hno
    simp only [not_or] at hno
    rw [if_neg hno.2, if_neg hno.1.2, if_neg hno.1.1] at hd
    cases hd
  rw [show c.isAlphanum = (c.isUpper || c.isLower || c.isDigit) from rfl, Bool.or_eq_true,
    Bool.or_eq_true]
  rcases hc with (⟨hfirst, hlast⟩ | ⟨hfirst, hlast⟩) | ⟨hfirst, hlast⟩
  · exact .inl (.inl (decide_eq_true ⟨hfirst, hlast⟩))
  · exact .inl (.inr (Bool.and_eq_true_iff.2 ⟨decide_eq_true hfirst, decide_eq_true hlast⟩))
  · exact .inr (Bool.and_eq_true_iff.2 ⟨decide_eq_true hfirst, decide_eq_true hlast⟩)

theorem StandsFor.exists_digitValue? {base n : Nat} {digits : List Char}
    (h : StandsFor base digits n) : ∀ c ∈ digits, ∃ d, digitValue? base c = some d := by
  obtain ⟨-, values, hvalues, -⟩ := h
  induction hvalues with
  | nil => simp
  | cons hc _ ih => exact List.forall_mem_cons.2 ⟨⟨_, hc⟩, ih⟩

end MessageCatalog.Text
