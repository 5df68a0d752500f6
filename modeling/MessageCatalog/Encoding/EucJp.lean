import MessageCatalog.Encoding.ByteReader
import MessageCatalog.Encoding.Table.JisX0201
import MessageCatalog.Encoding.Table.JisX0208
import MessageCatalog.Encoding.Table.JisX0212

/-!
# EUC-JP

A row and a cell of the Japanese standard take a byte each, above 0xA0. A byte in front of them
chooses the supplementary standard, and another one the narrow katakana.
-/

namespace MessageCatalog.Encoding.EucJp

/-- The bytes of a character that is not yet complete. -/
inductive Pending where
  | none
  | katakana
  | supplementary
  | row (a : UInt8)
  | supplementaryRow (a : UInt8)
  deriving DecidableEq, Repr

/-- The bytes of rows and cells. -/
def isPart : UInt8 → Bool :=
  isWithin 0xA1 0xFE

/-- The place with a row and a cell. -/
def place (row cell : UInt8) : Nat :=
  (row.toNat - 0xA1) * 94 + (cell.toNat - 0xA1)

/-- What a byte does. -/
def step : Pending → UInt8 → Option (Pending × List Char)
  | .none, b =>
    if b.toNat < 0x80 then some (.none, [ascii b])
    else if b = 0x8E then some (.katakana, [])
    else if b = 0x8F then some (.supplementary, [])
    else if isPart b then some (.row b, [])
    else none
  | .katakana, b =>
    if isPart b then (katakana? (b.toNat - 0xA1)).map fun c => (.none, [c]) else none
  | .supplementary, b => if isPart b then some (.supplementaryRow b, []) else none
  | .row a, b =>
    if isPart b then (CodeTable.jisX0208.char? (place a b)).map fun c => (.none, [c]) else none
  | .supplementaryRow a, b =>
    if isPart b then (CodeTable.jisX0212.char? (place a b)).map fun c => (.none, [c]) else none

/-- The reader of EUC-JP. -/
def reader : ByteReader Pending where
  start := .none
  step := step
  mayEnd state := state = .none

end MessageCatalog.Encoding.EucJp
