import MessageCatalog.Encoding.ByteReader
import MessageCatalog.Encoding.Table.Big5

/-!
# Big5

A character takes one or two bytes. Two bytes number a place of a table; four places hold a letter
with a mark on it that takes two characters.
-/

namespace MessageCatalog.Encoding.Big5

/-- The characters at a place. -/
def chars? (place : Nat) : Option (List Char) :=
  if place = 1133 then some ['Ê', '\u0304']
  else if place = 1135 then some ['Ê', '\u030C']
  else if place = 1164 then some ['ê', '\u0304']
  else if place = 1166 then some ['ê', '\u030C']
  else (CodeTable.big5.char? place).map fun c => [c]

/-- The characters of two bytes. -/
def twoByteChars? (a b : UInt8) : Option (List Char) :=
  let row := (a.toNat - 0x81) * 157
  if isWithin 0x40 0x7E b then chars? (row + (b.toNat - 0x40))
  else if isWithin 0xA1 0xFE b then chars? (row + (b.toNat - 0x62))
  else none

/-- What a byte does, after the first byte of a pair or after none. -/
def step : Option UInt8 → UInt8 → Option (Option UInt8 × List Char)
  | none, b =>
    if b.toNat < 0x80 then some (none, [ascii b])
    else if isWithin 0x81 0xFE b then some (some b, [])
    else none
  | some a, b => (twoByteChars? a b).map fun chars => (none, chars)

/-- The reader of Big5. -/
def reader : ByteReader (Option UInt8) where
  start := none
  step := step
  mayEnd state := state.isNone

end MessageCatalog.Encoding.Big5
