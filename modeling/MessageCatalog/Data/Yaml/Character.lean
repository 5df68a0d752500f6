/-!
# Characters of YAML

Which characters break lines, separate words, can stand in a text as they are, and may occur in a
stream at all.
-/

namespace MessageCatalog.Data.Yaml

/-- The character ends a line. -/
def isBreak (c : Char) : Bool :=
  c == '\n' || c == '\r' || c == '\x85' || c == '\u2028' || c == '\u2029'

def isSpace (c : Char) : Bool := c == ' '

def isBlank (c : Char) : Bool := c == ' ' || c == '\t'

/-- The character separates words or lines. A null character ends the text of a stream. -/
def isBlankOrBreak (c : Char) : Bool :=
  isBlank c || c == '\x00' || isBreak c

/-- A text is at its end or goes on with a character that separates words or lines. -/
def isSeparated (s : List Char) : Bool :=
  (s.head?.map isBlankOrBreak).getD true

/-- The character can stand in a text as it is. -/
def isPrintable (c : Char) : Bool :=
  let n := c.toNat
  n == 0xA || (0x20 ≤ n && n ≤ 0x7E) || (0xA0 ≤ n && n ≤ 0xD7FF) ||
    (0xE000 ≤ n && n ≤ 0xFFFD && n != 0xFEFF) || 0x10000 ≤ n

/-- The character may occur in a stream. -/
def isAllowed (c : Char) : Bool :=
  isPrintable c || c == '\t' || c == '\r' || c == '\x85' || c == '\ufeff'

/-- The character may stand in the name of an anchor or a handle. -/
def isNameChar (c : Char) : Bool :=
  c.isAlphanum || c == '-' || c == '_'

/-- What a text may start with is allowed in any stream. -/
theorem isAllowed_of_isPrintable {c : Char} (h : isPrintable c = true) : isAllowed c = true := by
  simp [isAllowed, h]

end MessageCatalog.Data.Yaml
