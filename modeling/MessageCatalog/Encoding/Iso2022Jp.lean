import MessageCatalog.Encoding.ByteReader
import MessageCatalog.Encoding.Table.JisX0201
import MessageCatalog.Encoding.Table.JisX0208

/-!
# ISO-2022-JP

All bytes are below 0x80. What they mean depends on the character set in force, which an escape
sequence of three bytes changes. A change that no character follows before the next one is
malformed, and so is one that cuts a character in two.
-/

namespace MessageCatalog.Encoding.Iso2022Jp

/-- The character set in force. -/
inductive CharSet where
  | ascii
  /-- ASCII with a yen sign and an overline in it. -/
  | roman
  | katakana
  /-- The characters of two bytes. -/
  | kanji
  deriving DecidableEq, Repr

/-- The bytes of a character or an escape sequence that is not yet complete. -/
inductive Pending where
  | none
  | row (a : UInt8)
  | escape
  | escapeTo (kind : UInt8)
  deriving DecidableEq, Repr

/-- What the bytes so far amount to. -/
structure State where
  set : CharSet
  pending : Pending
  /-- The character set has been chosen, and nothing has been written in it. -/
  isIdle : Bool
  deriving DecidableEq, Repr

/-- The byte that starts an escape sequence. -/
def escapeByte : UInt8 := 0x1B

/-- The character set that the end of an escape sequence chooses. -/
def chosen? (kind last : UInt8) : Option CharSet :=
  if kind = 0x28 then
    if last = 0x42 then some .ascii
    else if last = 0x4A then some .roman
    else if last = 0x49 then some .katakana
    else none
  else if last = 0x40 ∨ last = 0x42 then some .kanji
  else none

/-- The bytes of rows, cells and katakana. -/
def isPart : UInt8 → Bool :=
  isWithin 0x21 0x7E

/-- The character of one byte in a set of such characters. -/
def singleChar? (set : CharSet) (b : UInt8) : Option Char :=
  match set with
  | .ascii => plain?
  | .roman => if b = 0x5C then some '¥' else if b = 0x7E then some '‾' else plain?
  | .katakana => if isPart b then katakana? (b.toNat - 0x21) else none
  | .kanji => none
where
  plain? : Option Char :=
    if b.toNat < 0x80 && b != 0x0E && b != 0x0F then some (Encoding.ascii b) else none

/-- What a byte does. -/
def step (s : State) (b : UInt8) : Option (State × List Char) :=
  match s.pending with
  | .none =>
    if b = escapeByte then some ({ s with pending := .escape }, [])
    else if s.set = .kanji then
      if isPart b then some ({ s with pending := .row b, isIdle := false }, []) else none
    else (singleChar? s.set b).map fun c => ({ s with isIdle := false }, [c])
  | .row a =>
    if isPart b then
      (CodeTable.jisX0208.char? ((a.toNat - 0x21) * 94 + (b.toNat - 0x21))).map fun c =>
        ({ s with pending := .none }, [c])
    else none
  | .escape =>
    if b = 0x24 ∨ b = 0x28 then some ({ s with pending := .escapeTo b }, []) else none
  | .escapeTo kind =>
    if s.isIdle then none
    else (chosen? kind b).map fun set => (⟨set, .none, true⟩, [])

/-- The reader of ISO-2022-JP. -/
def reader : ByteReader State where
  start := ⟨.ascii, .none, false⟩
  step := step
  mayEnd state := state.pending = .none

end MessageCatalog.Encoding.Iso2022Jp
