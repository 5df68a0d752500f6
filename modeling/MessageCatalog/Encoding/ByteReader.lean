/-!
# Reading characters byte by byte

In most encodings a character takes several bytes, and what a byte means depends on those in front
of it. A reader keeps what it has to know of them in a state. A byte either completes some
characters, or changes the state, or is malformed; and bytes may end in some states only.
-/

namespace MessageCatalog.Encoding

/-- How bytes become characters, one byte at a time. -/
structure ByteReader (σ : Type) where
  /-- The state before the first byte. -/
  start : σ
  /-- The state after a byte and the characters that it completes, unless it is malformed. -/
  step : σ → UInt8 → Option (σ × List Char)
  /-- The bytes may end here. -/
  mayEnd : σ → Bool

namespace ByteReader

variable {σ : Type}

/-- Read on from a state, with the characters already read in front, latest first. -/
def readFrom (r : ByteReader σ) (state : σ) (seen : List Char) : List UInt8 → Option (List Char)
  | [] => if r.mayEnd state then some seen.reverse else none
  | b :: rest =>
    match r.step state b with
    | none => none
    | some (state, chars) => r.readFrom state (chars.reverse ++ seen) rest

/-- The characters of some bytes, if all of them are well formed. -/
def read (r : ByteReader σ) (bytes : List UInt8) : Option (List Char) :=
  r.readFrom r.start [] bytes

end ByteReader

/-- The character of a byte below 0x80. -/
def ascii (b : UInt8) : Char :=
  Char.ofNat b.toNat

/-- A byte within two bounds, both of them included. -/
def isWithin (low high : Nat) (b : UInt8) : Bool :=
  decide (low ≤ b.toNat) && decide (b.toNat ≤ high)

end MessageCatalog.Encoding
