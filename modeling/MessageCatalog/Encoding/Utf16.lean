/-!
# UTF-16

Characters as code units of two bytes, in either byte order. Characters beyond the first plane take
two units, a high and a low surrogate. A surrogate that stands alone and a last single byte are
malformed; reading yields `none` in their place.
-/

namespace MessageCatalog.Encoding.Utf16

/-- Which byte of a unit comes first. -/
inductive ByteOrder where
  | little
  | big
  deriving DecidableEq, Repr

/-- The number of a unit, from its two bytes as they stand. -/
def ByteOrder.unit : ByteOrder → UInt8 → UInt8 → Nat
  | little, a, b => a.toNat + b.toNat * 0x100
  | big, a, b => a.toNat * 0x100 + b.toNat

/-- The two bytes of a unit as they stand. -/
def ByteOrder.bytes : ByteOrder → Nat → List UInt8
  | little, u => [(u % 0x100).toUInt8, (u / 0x100).toUInt8]
  | big, u => [(u / 0x100).toUInt8, (u % 0x100).toUInt8]

/-- The units of a character. -/
def units (c : Char) : List Nat :=
  let n := c.toNat
  if n < 0x10000 then [n]
  else [0xD800 + (n - 0x10000) / 0x400, 0xDC00 + (n - 0x10000) % 0x400]

/-- The bytes of some characters. -/
def encode (order : ByteOrder) (s : List Char) : List UInt8 :=
  (s.flatMap units).flatMap order.bytes

def isHigh (u : Nat) : Bool :=
  decide (0xD800 ≤ u) && decide (u < 0xDC00)

def isLow (u : Nat) : Bool :=
  decide (0xDC00 ≤ u) && decide (u < 0xE000)

/-- The characters of some units, with `none` for a surrogate that stands alone. -/
def ofUnits : List Nat → List (Option Char)
  | [] => []
  | [u] => [if isHigh u || isLow u then none else some (Char.ofNat u)]
  | u :: v :: rest =>
    if isHigh u && isLow v then
      some (Char.ofNat (0x10000 + (u - 0xD800) * 0x400 + (v - 0xDC00))) :: ofUnits rest
    else (if isHigh u || isLow u then none else some (Char.ofNat u)) :: ofUnits (v :: rest)

/-- The units of some bytes. -/
def unitsOf (order : ByteOrder) : List UInt8 → List Nat
  | a :: b :: rest => order.unit a b :: unitsOf order rest
  | _ => []

/-- The characters of some bytes, with `none` for what is malformed. -/
def decode (order : ByteOrder) (bytes : List UInt8) : List (Option Char) :=
  ofUnits (unitsOf order bytes) ++ (if bytes.length % 2 = 1 then [none] else [])

end MessageCatalog.Encoding.Utf16
