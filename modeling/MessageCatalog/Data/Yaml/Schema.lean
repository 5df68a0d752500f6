import MessageCatalog.Text.Numeral

/-!
# The core schema of YAML

What a plain text means when nothing says that it is a text: nothing, a truth value, an integer or a
finite number. A text that would be read as one of these has to be quoted. So has a run of digits
that starts with a zero, which is no number but looks like one.
-/

namespace MessageCatalog.Data.Yaml

open Text

/-- The text reads as nothing. -/
def isNull (s : String) : Bool :=
  ["", "null", "Null", "NULL", "~"].contains s

/-- The truth value that a text reads as. -/
def readBool? (s : String) : Option Bool :=
  if ["true", "True", "TRUE"].contains s then some true
  else if ["false", "False", "FALSE"].contains s then some false
  else none

/-- Drop one sign in front. -/
def dropSign : List Char → List Char
  | '+' :: s | '-' :: s => s
  | s => s

/-- The text is a run of two digits or more that starts with a zero, with or without a sign. -/
def isPaddedDigits (s : List Char) : Bool :=
  match dropSign s with
  | '0' :: c :: s => (c :: s).all Char.isDigit
  | _ => false

/-- The text is digits of a base, for a value below the limit. -/
def isNumeral (base limit : Nat) (s : List Char) : Bool :=
  match s with
  | '+' :: _ => false
  | _ => (readNumeral base limit s).toBool

/-- The text is an integer with its base in front, for a value below the limit. -/
def isBasedNumeral (limit : Nat) : List Char → Bool
  | '0' :: 'x' :: s => isNumeral 16 limit s
  | '0' :: 'o' :: s => isNumeral 8 limit s
  | '0' :: 'b' :: s => isNumeral 2 limit s
  | _ => false

/-- The text reads as an integer: up to 128 bits without a minus sign, and as a signed integer of
128 bits with one. -/
def isInteger (s : List Char) : Bool :=
  match s with
  | '-' :: digits =>
    isBasedNumeral (Nat.pow 2 127 + 1) digits ||
      (!isPaddedDigits s && isNumeral 10 (Nat.pow 2 127 + 1) digits)
  | _ =>
    let digits := match s with
      | '+' :: digits => digits
      | digits => digits
    isBasedNumeral (Nat.pow 2 128) digits ||
      (!isPaddedDigits s && isNumeral 10 (Nat.pow 2 128) digits)

/-- The value of a run of digits. -/
def valueOfDigits (s : List Char) : Nat :=
  s.foldl (fun n c => 10 * n + (c.toNat - '0'.toNat)) 0

/-- A decimal number: `digits * 10 ^ exponent`. -/
structure DecimalNumber where
  digits : List Char
  exponent : Int
  deriving Repr

/-- The exponent of a number, given what stands behind the digits. -/
def readExponent? : List Char → Option Int
  | [] => some 0
  | 'e' :: s | 'E' :: s =>
    let digits := dropSign s
    if digits.isEmpty || !digits.all Char.isDigit then none
    else if s.head? = some '-' then some (-(valueOfDigits digits : Int))
    else some (valueOfDigits digits : Int)
  | _ => none

/-- A decimal number without a sign: digits with a point in it, and an exponent. -/
def readDecimalNumber? (s : List Char) : Option DecimalNumber := do
  let whole := s.takeWhile Char.isDigit
  let rest := s.dropWhile Char.isDigit
  let fraction := match rest with
    | '.' :: rest => rest.takeWhile Char.isDigit
    | _ => []
  let rest := match rest with
    | '.' :: rest => rest.dropWhile Char.isDigit
    | rest => rest
  if whole.isEmpty && fraction.isEmpty then none
  else
    let exponent ← readExponent? rest
    pure ⟨whole ++ fraction, exponent - fraction.length⟩

/-- The number is below what rounds to infinity among numbers of 64 bits: half of the last place
above the largest of them. -/
def DecimalNumber.isFinite (d : DecimalNumber) : Bool :=
  let digits := d.digits.dropWhile (· == '0')
  let magnitude := (digits.length : Int) + d.exponent
  if digits.isEmpty || magnitude < 308 then true
  else if 310 < magnitude then false
  else
    let n := valueOfDigits digits
    let bound := Nat.pow 2 1024 - Nat.pow 2 970
    if 0 ≤ d.exponent then n * Nat.pow 10 d.exponent.toNat < bound
    else n < bound * Nat.pow 10 d.exponent.natAbs

/-- The text reads as a number, infinite and undefined ones included. -/
def isNumber (s : List Char) : Bool :=
  let unsigned := match s with
    | '+' :: s => if s.head? = some '+' || s.head? = some '-' then none else some s
    | s => some s
  match unsigned with
  | none => false
  | some s' =>
    [".inf", ".Inf", ".INF"].contains (String.ofList s') ||
    ["-.inf", "-.Inf", "-.INF", ".nan", ".NaN", ".NAN"].contains (String.ofList s) ||
    (match readDecimalNumber? (dropSign s') with
      | some d => d.isFinite
      | none => false)

/-- The text means something else when it stands without quotes. -/
def isAmbiguous (s : String) : Bool :=
  let chars := s.toList
  isNull s || (readBool? s).isSome || isInteger chars || isPaddedDigits chars || isNumber chars

end MessageCatalog.Data.Yaml
