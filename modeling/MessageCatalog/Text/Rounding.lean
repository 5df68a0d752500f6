import MessageCatalog.Text.Numeral

/-!
# Rounded quotients

A quotient kept to 53 significant binary digits, as numbers with a fraction are usually kept, and
its decimal digits after rounding to some places. Both round to the nearest value, and a tie goes to
the even neighbour.
-/

namespace MessageCatalog.Text

/-- A quotient rounded to the nearest integer; a tie goes to the even one. -/
def roundedQuotient (num den : Nat) : Nat :=
  let q := num / den
  let r := num % den
  if 2 * r < den then q
  else if den < 2 * r then q + 1
  else q + q % 2

/-- A binary fraction: `digits / 2 ^ places`. -/
structure BinaryFraction where
  digits : Nat
  places : Nat
  deriving DecidableEq, Repr

namespace BinaryFraction

/-- How many binary digits are kept. -/
def width : Nat := 53

/-- A quotient below `2 ^ width`, rounded to `width` significant binary digits. -/
def ofQuotient (num den : Nat) : BinaryFraction :=
  if num = 0 then ⟨0, 0⟩
  else
    let places := width - 1 + Nat.log2 den - Nat.log2 num
    let short := num * Nat.pow 2 places / den < Nat.pow 2 (width - 1)
    let places := if short then places + 1 else places
    ⟨roundedQuotient (num * Nat.pow 2 places) den, places⟩

/-- A fraction times an integer, rounded again. -/
def scale (x : BinaryFraction) (n : Nat) : BinaryFraction :=
  ofQuotient (x.digits * n) (Nat.pow 2 x.places)

/-- A fraction with some decimal places. -/
def decimal (x : BinaryFraction) (places : Nat) : List Char :=
  let units := roundedQuotient (x.digits * Nat.pow 10 places) (Nat.pow 2 x.places)
  let digits := Text.decimal units
  let digits := List.replicate (places + 1 - digits.length) '0' ++ digits
  let whole := digits.length - places
  digits.take whole ++ '.' :: digits.drop whole

end BinaryFraction

/-- A rounded quotient is within half of the divisor. -/
theorem roundedQuotient_near {num den : Nat} (h : 0 < den) :
    2 * (roundedQuotient num den * den) ≤ 2 * num + den ∧
      2 * num ≤ 2 * (roundedQuotient num den * den) + den := by
  have hd := Nat.div_add_mod num den
  have hm := Nat.mod_lt num h
  rw [Nat.mul_comm] at hd
  unfold roundedQuotient
  simp only
  split
  · omega
  · split
    · rw [Nat.add_mul]; omega
    · rcases Nat.mod_two_eq_zero_or_one (num / den) with h2 | h2 <;> rw [h2, Nat.add_mul] <;> omega

end MessageCatalog.Text
