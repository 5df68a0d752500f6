import MessageCatalog.Encoding.ByteReader
import MessageCatalog.Encoding.Table.UnifiedHangul

/-!
# EUC-KR

A character takes one or two bytes. Two bytes number a place of the Unified Hangul Code.
-/

namespace MessageCatalog.Encoding.EucKr

/-- The character of two bytes. -/
def twoByteChar? (a b : UInt8) : Option Char :=
  if isWithin 0x41 0xFE b then
    CodeTable.unifiedHangul.char? ((a.toNat - 0x81) * 190 + (b.toNat - 0x41))
  else none

/-- What a byte does, after the first byte of a pair or after none. -/
def step : Option UInt8 → UInt8 → Option (Option UInt8 × List Char)
  | none, b =>
    if b.toNat < 0x80 then some (none, [ascii b])
    else if isWithin 0x81 0xFE b then some (some b, [])
    else none
  | some a, b => (twoByteChar? a b).map fun c => (none, [c])

/-- The reader of EUC-KR. -/
def reader : ByteReader (Option UInt8) where
  start := none
  step := step
  mayEnd state := state.isNone

end MessageCatalog.Encoding.EucKr
