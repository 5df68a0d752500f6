/-!
# UTF-8

Characters as bytes and back. Reading stops at the first bytes that are no character and says where
they start and how many they are, or that the input ends inside a character. A run of malformed
bytes is as long as the start of some character that it could still have been, so the lenient
reading puts one replacement character in the place of each run.
-/

namespace MessageCatalog.Encoding.Utf8

/-- The bytes of some characters. -/
def encode (s : List Char) : List UInt8 :=
  s.flatMap String.utf8EncodeChar

/-- What some bytes begin with. -/
inductive Head where
  /-- A character of so many bytes. -/
  | char (c : Char) (width : Nat)
  /-- So many bytes that belong to no character. -/
  | malformed (width : Nat)
  /-- The start of a character, and then nothing. -/
  | incomplete
  deriving DecidableEq, Repr

/-- A byte that continues a character. -/
def isTail (b : UInt8) : Bool :=
  decide (0x80 ≤ b.toNat) && decide (b.toNat ≤ 0xBF)

/-- The second byte of a character may follow its first byte. The narrower ranges keep out
spellings that are too long, surrogates, and numbers beyond the last character. -/
def isSecond (first second : UInt8) : Bool :=
  if first = 0xE0 then decide (0xA0 ≤ second.toNat) && isTail second
  else if first = 0xED then isTail second && decide (second.toNat ≤ 0x9F)
  else if first = 0xF0 then decide (0x90 ≤ second.toNat) && isTail second
  else if first = 0xF4 then isTail second && decide (second.toNat ≤ 0x8F)
  else isTail second

/-- What the bytes begin with, given the first and those after it. -/
def head (a : UInt8) (rest : List UInt8) : Head :=
  let x := a.toNat
  if x < 0x80 then .char (Char.ofNat x) 1
  else if x < 0xC2 then .malformed 1
  else if x < 0xE0 then
    match rest with
    | [] => .incomplete
    | b :: _ =>
      if isTail b then .char (Char.ofNat ((x - 0xC0) * 0x40 + (b.toNat - 0x80))) 2
      else .malformed 1
  else if x < 0xF0 then
    match rest with
    | [] => .incomplete
    | b :: rest =>
      if isSecond a b then
        match rest with
        | [] => .incomplete
        | c :: _ =>
          if isTail c then
            .char (Char.ofNat ((x - 0xE0) * 0x1000 + (b.toNat - 0x80) * 0x40 + (c.toNat - 0x80))) 3
          else .malformed 2
      else .malformed 1
  else if x < 0xF5 then
    match rest with
    | [] => .incomplete
    | b :: rest =>
      if isSecond a b then
        match rest with
        | [] => .incomplete
        | c :: rest =>
          if isTail c then
            match rest with
            | [] => .incomplete
            | d :: _ =>
              if isTail d then
                .char (Char.ofNat ((x - 0xF0) * 0x40000 + (b.toNat - 0x80) * 0x1000
                  + (c.toNat - 0x80) * 0x40 + (d.toNat - 0x80))) 4
              else .malformed 3
          else .malformed 2
      else .malformed 1
  else .malformed 1

/-- Where some bytes stop being text. The width is absent when they end inside a character. -/
structure Fault where
  index : Nat
  width : Option Nat
  deriving DecidableEq, Repr

def Fault.message (f : Fault) : String :=
  match f.width with
  | some width => s!"invalid utf-8 sequence of {width} bytes from index {f.index}"
  | none => s!"incomplete utf-8 byte sequence from index {f.index}"

/-- Read on at an index, with the characters already read in front, latest first. -/
def decodeFrom (index : Nat) (seen : List Char) : List UInt8 → Except Fault (List Char)
  | [] => .ok seen.reverse
  | a :: rest =>
    match head a rest with
    | .char c width => decodeFrom (index + width) (c :: seen) (rest.drop (width - 1))
    | .malformed width => .error ⟨index, some width⟩
    | .incomplete => .error ⟨index, none⟩
  termination_by bytes => bytes.length
  decreasing_by simp only [List.length_drop, List.length_cons]; omega

/-- The characters of some bytes. -/
def decode (bytes : List UInt8) : Except Fault (List Char) :=
  decodeFrom 0 [] bytes

/-- What stands for bytes that are no character. -/
def replacement : Char := Char.ofNat 0xFFFD

/-- Read on leniently, with the characters already read in front, latest first. -/
def decodeLossyFrom (seen : List Char) : List UInt8 → List Char
  | [] => seen.reverse
  | a :: rest =>
    match head a rest with
    | .char c width => decodeLossyFrom (c :: seen) (rest.drop (width - 1))
    | .malformed width => decodeLossyFrom (replacement :: seen) (rest.drop (width - 1))
    | .incomplete => (replacement :: seen).reverse
  termination_by bytes => bytes.length
  decreasing_by all_goals simp only [List.length_drop, List.length_cons]; omega

/-- The characters of some bytes, with a replacement for every malformed run. -/
def decodeLossy (bytes : List UInt8) : List Char :=
  decodeLossyFrom [] bytes

end MessageCatalog.Encoding.Utf8
