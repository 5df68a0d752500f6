/-!
# Numerals

Reading a number below a limit from its digits in some base, with the reason when there is none.
The digits are read from the left, and the first thing that goes wrong is what is reported: a
character that is no digit, or a value that has left the range.
-/

namespace MessageCatalog.Text

/-- Why a text is not a number in range. -/
inductive NumeralFault where
  | empty
  | invalidDigit
  | tooLarge
  deriving DecidableEq, Repr

namespace NumeralFault

def message : NumeralFault → String
  | empty => "cannot parse integer from empty string"
  | invalidDigit => "invalid digit found in string"
  | tooLarge => "number too large to fit in target type"

end NumeralFault

/-- The value of a digit in a base of at most thirty-six, letters in either case. -/
def digitValue? (base : Nat) (c : Char) : Option Nat :=
  let n := c.toNat
  let value? :=
    if 48 ≤ n ∧ n ≤ 57 then some (n - 48)
    else if 97 ≤ n ∧ n ≤ 122 then some (n - 87)
    else if 65 ≤ n ∧ n ≤ 90 then some (n - 55)
    else none
  value?.filter (· < base)

/-- Read the digits that follow a number already read. -/
def readDigits (base limit : Nat) : Nat → List Char → Except NumeralFault Nat
  | value, [] => .ok value
  | value, c :: rest =>
    match digitValue? base c with
    | none => .error .invalidDigit
    | some digit =>
      if base * value + digit < limit then readDigits base limit (base * value + digit) rest
      else .error .tooLarge

/-- Read a number below the limit. One plus sign may stand before the digits. -/
def readNumeral (base limit : Nat) : List Char → Except NumeralFault Nat
  | [] => .error .empty
  | ['+'] => .error .invalidDigit
  | '+' :: digits => readDigits base limit 0 digits
  | digits => readDigits base limit 0 digits

/-- Read a signed number of sixty-four bits. -/
def readInt64? (s : List Char) : Option Int :=
  match s with
  | '-' :: '+' :: _ => none
  | '-' :: digits => ((readNumeral 10 (Nat.pow 2 63 + 1) digits).toOption).map fun n => -(n : Int)
  | digits => ((readNumeral 10 (Nat.pow 2 63) digits).toOption).map fun n => (n : Int)

/-- The digit of a value below sixteen, in lower case. -/
def hexDigit (n : Nat) : Char :=
  if n < 10 then Char.ofNat (48 + n) else Char.ofNat (87 + n)

/-- The hexadecimal digits of a number below `16 ^ width`, padded to the width. -/
def hexPadded : Nat → Nat → List Char
  | 0, _ => []
  | width + 1, n => hexPadded width (n / 16) ++ [hexDigit (n % 16)]

/-- The hexadecimal digits of a number, without leading zeros. -/
def hex (n : Nat) : List Char :=
  Nat.toDigits 16 n

/-- The decimal digits of a number. -/
def decimal (n : Nat) : List Char :=
  Nat.toDigits 10 n

/-- The decimal digits of an integer, after a minus sign when it is negative. -/
def signedDecimal (i : Int) : List Char :=
  if i < 0 then '-' :: decimal i.natAbs else decimal i.natAbs

/-- The letters of ASCII in lower case. -/
def lowercase (s : List Char) : List Char :=
  s.map Char.toLower

theorem length_hexPadded (width n : Nat) : (hexPadded width n).length = width := by
  induction width generalizing n with
  | zero => rfl
  | succ width ih => simp [hexPadded, ih]

/-- A number that is read is below the limit. -/
theorem readDigits_lt {base limit value n : Nat} {s : List Char} (hv : value < limit)
    (h : readDigits base limit value s = .ok n) : n < limit := by
  induction s generalizing value with
  | nil =>
    simp only [readDigits, Except.ok.injEq] at h
    exact h ▸ hv
  | cons c rest ih =>
    simp only [readDigits] at h
    split at h
    · cases h
    · split at h
      · next hlt => exact ih hlt h
      · cases h

end MessageCatalog.Text
