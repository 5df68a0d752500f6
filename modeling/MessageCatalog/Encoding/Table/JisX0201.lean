/-!
# The katakana of JIS X 0201

The Japanese standard of characters of one byte has sixty-three katakana and marks besides ASCII.
They are narrower than those that take two bytes.
-/

namespace MessageCatalog.Encoding

/-- The narrow katakana with an index. -/
def katakana? (index : Nat) : Option Char :=
  if index < 63 then some (Char.ofNat (0xFF61 + index)) else none

end MessageCatalog.Encoding
