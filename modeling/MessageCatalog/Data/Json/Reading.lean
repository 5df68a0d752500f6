import MessageCatalog.Data.Value

/-!
# Reading JSON

The grammar of JSON without extensions. Nothing may stand behind the value but blanks. Numbers are
kept as they are written, and records keep all their fields in order, repeated names included.

A text may name half of a character beyond the first plane. Such a text is damaged, and so is a
record in which it is the name of a field: it is passed over where nobody asks for it and is no
value anywhere else.
-/

namespace MessageCatalog.Data.Json

def isBlank (c : Char) : Bool :=
  c == ' ' || c == '\n' || c == '\r' || c == '\t'

def skipBlanks (s : List Char) : List Char :=
  s.dropWhile isBlank

/-- The code unit that four hexadecimal digits name. -/
def unit? (a b c d : Char) : Option Nat := do
  let a ← Text.digitValue? 16 a
  let b ← Text.digitValue? 16 b
  let c ← Text.digitValue? 16 c
  let d ← Text.digitValue? 16 d
  pure (((a * 16 + b) * 16 + c) * 16 + d)

/-- The character that a letter behind a backslash names. -/
def unescape? (c : Char) : Option Char :=
  if c = '\x22' then some '\x22'
  else if c = '\\' then some '\\'
  else if c = '/' then some '/'
  else if c = 'b' then some '\x08'
  else if c = 'f' then some '\x0c'
  else if c = 'n' then some '\n'
  else if c = 'r' then some '\r'
  else if c = 't' then some '\t'
  else none

/-- A text being read: its characters so far, latest first, unless it is damaged, and the high half
of a character that waits for its low half. -/
structure TextSoFar where
  seen : List Char := []
  high : Option Nat := none
  damaged : Bool := false

namespace TextSoFar

/-- A half that waits is alone. -/
def settle (t : TextSoFar) : TextSoFar :=
  { t with high := none, damaged := t.damaged || t.high.isSome }

def push (t : TextSoFar) (c : Char) : TextSoFar :=
  let t := t.settle
  { t with seen := c :: t.seen }

/-- A code unit is named. -/
def pushUnit (t : TextSoFar) (u : Nat) : TextSoFar :=
  if 0xDC00 ≤ u ∧ u < 0xE000 then
    match t.high with
    | some h =>
      { t with
        seen := Char.ofNat (0x10000 + (h - 0xD800) * 0x400 + (u - 0xDC00)) :: t.seen, high := none }
    | none => { t with damaged := true }
  else if 0xD800 ≤ u ∧ u < 0xDC00 then { t.settle with high := some u }
  else t.push (Char.ofNat u)

def value (t : TextSoFar) : Value :=
  let t := t.settle
  if t.damaged then .damaged else .text (String.ofList t.seen.reverse)

end TextSoFar

/-- Read a text up to its closing quote. -/
def readText? (t : TextSoFar) : List Char → Option (Value × List Char)
  | [] => none
  | '\x22' :: rest => some (t.value, rest)
  | '\\' :: 'u' :: a :: b :: c :: d :: rest =>
    match unit? a b c d with
    | some u => readText? (t.pushUnit u) rest
    | none => none
  | '\\' :: c :: rest =>
    match unescape? c with
    | some c => readText? (t.push c) rest
    | none => none
  | c :: rest => if c.toNat < 0x20 ∨ c = '\\' then none else readText? (t.push c) rest

/-- At least one digit, and the rest. -/
def digits? (s : List Char) : Option (List Char × List Char) :=
  let digits := s.takeWhile Char.isDigit
  if digits.isEmpty then none else some (digits, s.dropWhile Char.isDigit)

/-- A decimal point with the digits behind it, if there is one. -/
def fraction? : List Char → Option (List Char × List Char)
  | '.' :: s => (digits? s).map fun (digits, rest) => ('.' :: digits, rest)
  | s => some ([], s)

/-- An exponent, if there is one. -/
def exponent? : List Char → Option (List Char × List Char)
  | e :: s =>
    if e = 'e' ∨ e = 'E' then
      match s with
      | '+' :: s => (digits? s).map fun (digits, rest) => (e :: '+' :: digits, rest)
      | '-' :: s => (digits? s).map fun (digits, rest) => (e :: '-' :: digits, rest)
      | s => (digits? s).map fun (digits, rest) => (e :: digits, rest)
    else some ([], e :: s)
  | [] => some ([], [])

/-- The digits in front of the decimal point. A zero stands alone. -/
def whole? : List Char → Option (List Char × List Char)
  | '0' :: s => some (['0'], s)
  | s => digits? s

/-- Read a number. -/
def readNumber? (s : List Char) : Option (Value × List Char) := do
  let (sign, s) := match s with
    | '-' :: s => (['-'], s)
    | s => ([], s)
  let (whole, s) ← whole? s
  let (fraction, s) ← fraction? s
  let (exponent, s) ← exponent? s
  pure (.number (String.ofList (sign ++ whole ++ fraction ++ exponent)), s)

/-- Read a word, given the characters behind its first one. -/
def readWord? (word : List Char) (value : Value) (s : List Char) : Option (Value × List Char) :=
  if word.isPrefixOf s then some (value, s.drop word.length) else none

/-- A record of fields whose names are texts. A damaged name damages the record. -/
def recordOf (fields : List (Value × Value)) : Value :=
  match fields.mapM fun (name, value) => name.text?.map (·, value) with
  | some fields => .record fields
  | none => .damaged

mutual

/-- Read a value. The fuel bounds the depth and the length of what is read. -/
def readValue? : Nat → List Char → Option (Value × List Char)
  | 0, _ => none
  | fuel + 1, s =>
    match skipBlanks s with
    | [] => none
    | c :: s =>
      if c = 'n' then readWord? ['u', 'l', 'l'] .null s
      else if c = 't' then readWord? ['r', 'u', 'e'] (.bool true) s
      else if c = 'f' then readWord? ['a', 'l', 's', 'e'] (.bool false) s
      else if c = '\x22' then readText? {} s
      else if c = '[' then
        match skipBlanks s with
        | ']' :: s => some (.list [], s)
        | s => (readItems? fuel s).map fun (items, s) => (.list items, s)
      else if c = '{' then
        match skipBlanks s with
        | '}' :: s => some (.record [], s)
        | s => (readFields? fuel s).map fun (fields, s) => (recordOf fields, s)
      else readNumber? (c :: s)

/-- Read the items of a list up to its closing bracket. -/
def readItems? : Nat → List Char → Option (List Value × List Char)
  | 0, _ => none
  | fuel + 1, s =>
    match readValue? fuel s with
    | none => none
    | some (item, s) =>
      match skipBlanks s with
      | ',' :: s => (readItems? fuel s).map fun (items, s) => (item :: items, s)
      | ']' :: s => some ([item], s)
      | _ => none

/-- Read the fields of a record up to its closing brace. -/
def readFields? : Nat → List Char → Option (List (Value × Value) × List Char)
  | 0, _ => none
  | fuel + 1, s =>
    match skipBlanks s with
    | '\x22' :: s =>
      match readText? {} s with
      | some (name, s) =>
        match skipBlanks s with
        | ':' :: s =>
          match readValue? fuel s with
          | none => none
          | some (value, s) =>
            match skipBlanks s with
            | ',' :: s => (readFields? fuel s).map fun (fields, s) => ((name, value) :: fields, s)
            | '}' :: s => some ([(name, value)], s)
            | _ => none
        | _ => none
      | _ => none
    | _ => none

end

/-- Read a text that holds one value. -/
def readChars? (s : List Char) : Option Value :=
  match readValue? (2 * s.length + 2) s with
  | some (value, rest) => if (skipBlanks rest).isEmpty then some value else none
  | none => none

/-- Read a text that holds one value. -/
def read? (s : String) : Option Value :=
  readChars? s.toList

end MessageCatalog.Data.Json
