import MessageCatalog.Encoding.ByteReader
import MessageCatalog.Encoding.Table.JisX0201
import MessageCatalog.Encoding.Table.JisX0208

/-!
# Shift_JIS

A character takes one or two bytes. Two rows of the Japanese standard share a first byte, so that
the narrow katakana fit in between. Behind the rows of the standard there is room for characters for
private use.
-/

namespace MessageCatalog.Encoding.ShiftJis

/-- The character at a place. -/
def char? (place : Nat) : Option Char :=
  if 8836 ≤ place ∧ place ≤ 10715 then some (Char.ofNat (0xE000 + (place - 8836)))
  else CodeTable.jisX0208.char? place

/-- The character of two bytes. -/
def twoByteChar? (a b : UInt8) : Option Char :=
  let rows := (a.toNat - (if a.toNat < 0xA0 then 0x81 else 0xC1)) * 188
  if isWithin 0x40 0x7E b then char? (rows + (b.toNat - 0x40))
  else if isWithin 0x80 0xFC b then char? (rows + (b.toNat - 0x41))
  else none

/-- What a byte does, after the first byte of a pair or after none. -/
def step : Option UInt8 → UInt8 → Option (Option UInt8 × List Char)
  | none, b =>
    if b.toNat ≤ 0x80 then some (none, [ascii b])
    else if isWithin 0xA1 0xDF b then (katakana? (b.toNat - 0xA1)).map fun c => (none, [c])
    else if isWithin 0x81 0x9F b || isWithin 0xE0 0xFC b then some (some b, [])
    else none
  | some a, b => (twoByteChar? a b).map fun c => (none, [c])

/-- The reader of Shift_JIS. -/
def reader : ByteReader (Option UInt8) where
  start := none
  step := step
  mayEnd state := state.isNone

end MessageCatalog.Encoding.ShiftJis
