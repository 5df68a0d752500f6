/-!
# Terminals

Whether what is printed has colours.
-/

namespace MessageCatalog.Command

/-- Where the output goes, and what the environment says about colours. -/
structure Terminal where
  /-- The output goes to a terminal. -/
  isTerminal : Bool
  /-- Colours are wanted on terminals. -/
  wanted : Option String := none
  /-- Colours are never wanted. -/
  unwanted : Option String := none
  /-- Colours are wanted everywhere. -/
  forced : Option String := none
  deriving DecidableEq, Repr

namespace Terminal

/-- The value of a variable switches something on. -/
def isOn (value : String) : Bool := value != "0"

/-- What is printed has colours. Forcing them is stronger than not wanting them. -/
def hasColor (t : Terminal) : Bool :=
  if t.forced.any isOn then true
  else if t.unwanted.isSome then false
  else t.wanted.all isOn && t.isTerminal

end Terminal

end MessageCatalog.Command
