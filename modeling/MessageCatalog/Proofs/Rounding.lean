import Mathlib.Algebra.Order.Field.Basic
import Mathlib.Data.Nat.Log
import Mathlib.Data.Rat.Cast.Order
import Mathlib.Tactic.Linarith
import Mathlib.Tactic.Ring
import MessageCatalog.Text.Rounding

/-!
# Shares after rounding

A share of a whole that is kept to some binary digits is as near to the share as the digits allow
(`value_ofQuotient_near`) and does not exceed one (`value_ofQuotient_le`). It is told apart from one
when a part is missing, as long as the number of parts is kept without rounding, too
(`value_ofQuotient_eq_one_iff`).
-/

namespace MessageCatalog.Text

/-- Rounding does not go beyond an integer. -/
theorem roundedQuotient_le {num den k : Nat} (hd : 0 < den) (h : num ≤ k * den) :
    roundedQuotient num den ≤ k := by
  obtain ⟨hnear, -⟩ := @roundedQuotient_near num den hd
  have hlt : roundedQuotient num den * den < (k + 1) * den := by
    rw [Nat.add_mul]
    omega
  exact Nat.le_of_lt_succ (Nat.lt_of_mul_lt_mul_right hlt)

/-- A multiple of the divisor is not rounded. -/
theorem roundedQuotient_mul {den : Nat} (hd : 0 < den) (k : Nat) :
    roundedQuotient (k * den) den = k := by
  have hpos : 2 * 0 < den := hd
  rw [roundedQuotient, Nat.mul_mod_left, Nat.mul_div_cancel k hd]
  exact if_pos hpos

namespace BinaryFraction

/-- What a binary fraction stands for. -/
def value (x : BinaryFraction) : ℚ :=
  x.digits / 2 ^ x.places

theorem value_le_one_iff {x : BinaryFraction} : x.value ≤ 1 ↔ x.digits ≤ 2 ^ x.places := by
  have hpos : (0 : ℚ) < 2 ^ x.places := pow_pos two_pos _
  rw [value, div_le_one hpos]
  exact_mod_cast Iff.rfl

theorem value_eq_one_iff {x : BinaryFraction} : x.value = 1 ↔ x.digits = 2 ^ x.places := by
  have hne : (2 : ℚ) ^ x.places ≠ 0 := pow_ne_zero _ two_ne_zero
  rw [value, div_eq_one_iff_eq hne]
  exact_mod_cast Iff.rfl

/-- The places to which a quotient is kept. -/
def placesOf (num den : Nat) : Nat :=
  let places := width - 1 + Nat.log2 den - Nat.log2 num
  if num * Nat.pow 2 places / den < Nat.pow 2 (width - 1) then places + 1 else places

theorem ofQuotient_zero (den : Nat) : ofQuotient 0 den = ⟨0, 0⟩ :=
  if_pos rfl

theorem ofQuotient_of_pos {num den : Nat} (h : 0 < num) :
    ofQuotient num den =
      ⟨roundedQuotient (num * 2 ^ placesOf num den) den, placesOf num den⟩ := by
  rw [ofQuotient, if_neg (Nat.ne_of_gt h)]
  rfl

/-- What is less than a whole is kept to as many places as there are binary digits. -/
theorem width_le_placesOf {num den : Nat} (hn : 0 < num) (h : num < den) :
    width ≤ placesOf num den := by
  have hlog : Nat.log2 num ≤ Nat.log2 den := by
    rw [Nat.log2_eq_log_two, Nat.log2_eq_log_two]
    exact Nat.log_mono_right h.le
  have hwidth : width = 53 := rfl
  unfold placesOf
  dsimp only
  rcases hlog.eq_or_lt with heq | hlt
  · -- Both have as many binary digits, so the quotient is below one and takes one place more.
    have hshort : num * 2 ^ (width - 1) / den < 2 ^ (width - 1) := by
      rw [Nat.div_lt_iff_lt_mul (by omega), Nat.mul_comm]
      exact Nat.mul_lt_mul_of_pos_left h (Nat.two_pow_pos _)
    rw [heq, Nat.add_sub_cancel]
    change width ≤ if num * 2 ^ (width - 1) / den < 2 ^ (width - 1) then _ else _
    rw [if_pos hshort]
    omega
  · split <;> omega

/-- A part of a whole is at most one. -/
theorem value_ofQuotient_le {num den : Nat} (hd : 0 < den) (h : num ≤ den) :
    (ofQuotient num den).value ≤ 1 := by
  rcases Nat.eq_zero_or_pos num with rfl | hn
  · rw [value_le_one_iff, ofQuotient_zero]
    exact Nat.zero_le _
  · rw [value_le_one_iff, ofQuotient_of_pos hn]
    refine roundedQuotient_le hd ?_
    rw [Nat.mul_comm]
    exact Nat.mul_le_mul_left _ h

/-- The whole is one. -/
theorem value_ofQuotient_self {n : Nat} (h : 0 < n) : (ofQuotient n n).value = 1 := by
  rw [value_eq_one_iff, ofQuotient_of_pos h, Nat.mul_comm, roundedQuotient_mul h]

/-- A share is rounded by at most half of the last place of a number just below one. -/
theorem value_ofQuotient_near {num den : Nat} (hd : 0 < den) (h : num ≤ den) :
    |(ofQuotient num den).value - num / den| ≤ 1 / 2 ^ (width + 1) := by
  have hdpos : (0 : ℚ) < den := Nat.cast_pos.2 hd
  have hlast : (0 : ℚ) ≤ 1 / 2 ^ (width + 1) := div_nonneg zero_le_one (pow_nonneg zero_le_two _)
  rcases h.eq_or_lt with rfl | hlt
  · rwa [value_ofQuotient_self hd, div_self hdpos.ne', sub_self, abs_zero]
  rcases Nat.eq_zero_or_pos num with rfl | hn
  · rwa [value, ofQuotient_zero, Nat.cast_zero, zero_div, zero_div, sub_self, abs_zero]
  rw [value, ofQuotient_of_pos hn]
  have hplaces : (2 : ℚ) ^ width ≤ 2 ^ placesOf num den :=
    pow_le_pow_right₀ one_le_two (width_le_placesOf hn hlt)
  have hppos : (0 : ℚ) < 2 ^ placesOf num den := pow_pos two_pos _
  obtain ⟨hupper, hlower⟩ := @roundedQuotient_near (num * 2 ^ placesOf num den) den hd
  generalize roundedQuotient (num * 2 ^ placesOf num den) den = digits at hupper hlower
  generalize placesOf num den = places at hplaces hppos hupper hlower
  have hnear : 2 * |(digits : ℚ) * den - 2 ^ places * num| ≤ den := by
    have hupper' : (2 : ℚ) * (digits * den) ≤ 2 * (num * 2 ^ places) + den := by
      exact_mod_cast hupper
    have hlower' : (2 : ℚ) * (num * 2 ^ places) ≤ 2 * (digits * den) + den := by
      exact_mod_cast hlower
    have hhalf : |(digits : ℚ) * den - 2 ^ places * num| ≤ den / 2 :=
      abs_le.2 ⟨by linarith, by linarith⟩
    linarith
  rw [div_sub_div _ _ hppos.ne' hdpos.ne', abs_div, abs_of_pos (mul_pos hppos hdpos),
    div_le_div_iff₀ (mul_pos hppos hdpos) (pow_pos two_pos _)]
  calc |(digits : ℚ) * den - 2 ^ places * num| * 2 ^ (width + 1)
      = 2 * |(digits : ℚ) * den - 2 ^ places * num| * 2 ^ width := by ring
    _ ≤ den * 2 ^ places := mul_le_mul hnear hplaces (pow_nonneg zero_le_two _) hdpos.le
    _ = 1 * (2 ^ places * den) := by ring

/-- Only the whole is one, when it needs no more binary digits than are kept. -/
theorem value_ofQuotient_eq_one_iff {num den : Nat} (hd : 0 < den) (h : num ≤ den)
    (hden : den ≤ 2 ^ width) : (ofQuotient num den).value = 1 ↔ num = den := by
  constructor
  · intro hone
    by_contra hne
    have hlt : num < den := Nat.lt_of_le_of_ne h hne
    rcases Nat.eq_zero_or_pos num with rfl | hn
    · rw [value_eq_one_iff, ofQuotient_zero] at hone
      cases hone
    · rw [value_eq_one_iff, ofQuotient_of_pos hn] at hone
      -- One part in the whole is worth more than half of the last place.
      obtain ⟨hnear, -⟩ := @roundedQuotient_near (num * 2 ^ placesOf num den) den hd
      have hpart : num * 2 ^ placesOf num den + 2 ^ placesOf num den ≤
          2 ^ placesOf num den * den := by
        rw [← Nat.succ_mul, Nat.mul_comm]
        exact Nat.mul_le_mul_left _ hlt
      have hplaces : 2 ^ width ≤ 2 ^ placesOf num den :=
        Nat.pow_le_pow_right (by decide) (width_le_placesOf hn hlt)
      have hpos : 0 < 2 ^ width := by decide
      dsimp only at hone
      rw [hone] at hnear
      omega
  · rintro rfl
    exact value_ofQuotient_self hd

end BinaryFraction

end MessageCatalog.Text
