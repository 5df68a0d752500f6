import MessageCatalog.Text.Numeral
import MessageCatalog.Total

/-!
# Entities

In text and in attribute values an ampersand begins an entity, which ends at the next semicolon. An
entity is one of five names or the number of a character. `escape` writes the five characters that
have a name as entities, and `unescape` reads entities back.

Places in a text are counted in bytes of UTF-8.
-/

namespace MessageCatalog.Markup

/-- How many bytes a text takes. -/
def byteLength (s : List Char) : Nat :=
  total (s.map Char.utf8Size)

theorem byteLength_append (s t : List Char) :
    byteLength (s ++ t) = byteLength s + byteLength t := by
  simp [byteLength]

/-- What is wrong with the number of a character. -/
inductive ReferenceFault where
  | sign
  | digits (fault : Text.NumeralFault)
  /-- No character has the number. -/
  | noCharacter (code : Nat)
  | zero
  deriving DecidableEq, Repr

namespace ReferenceFault

def message : ReferenceFault → String
  | sign => "unexpected number sign"
  | digits fault => fault.message
  | noCharacter code => s!"`{code}` is not a valid codepoint"
  | zero => "0x0 character is not permitted in XML"

end ReferenceFault

/-- What is wrong with an entity. -/
inductive EntityFault where
  /-- The name between two places is not known. -/
  | unknown (first last : Nat) (name : String)
  /-- An ampersand without a semicolon, and the end of the text. -/
  | openEnded (first last : Nat)
  | reference (fault : ReferenceFault)
  deriving DecidableEq, Repr

namespace EntityFault

/-- The fault with its causes, outermost first. -/
def chain : EntityFault → List String
  | unknown first last name =>
    let text := s!"at {first}..{last}: unrecognized entity `{name}`"
    [text, text]
  | openEnded first last =>
    let text :=
      s!"Error while escaping character at range {first}..{last}: " ++ "Cannot find ';' after '&'"
    [text, text]
  | reference fault =>
    let text := "invalid character reference: " ++ fault.message
    [text, text, fault.message] ++
      (match fault with
       | .digits _ => [fault.message]
       | _ => [])

def message (f : EntityFault) : String :=
  ": ".intercalate f.chain

end EntityFault

/-- The names of entities and what they stand for. -/
def entityNames : List (List Char × Char) :=
  [(['l', 't'], '<'), (['g', 't'], '>'), (['a', 'm', 'p'], '&'), (['a', 'p', 'o', 's'], '\x27'),
   (['q', 'u', 'o', 't'], '\x22')]

/-- The number is that of a character: no surrogate and not beyond the last one. -/
def charOfCode? (code : Nat) : Option Char :=
  if h : code.isValidChar then some (Char.ofNatAux code h) else none

/-- Read the number of a character, hexadecimal after an `x` and decimal otherwise. -/
def readReference (s : List Char) : Except ReferenceFault Char := do
  let (base, digits) := match s with
    | 'x' :: rest => (16, rest)
    | _ => (10, s)
  match digits with
  | '+' :: _ | '-' :: _ => .error .sign
  | _ => pure ()
  match Text.readNumeral base (Nat.pow 2 32) digits with
  | .error fault => .error (.digits fault)
  | .ok 0 => .error .zero
  | .ok code =>
    match charOfCode? code with
    | none => .error (.noCharacter code)
    | some c => .ok c

/-- The character of an entity whose name starts at a place. -/
def resolve (first : Nat) (name : List Char) : Except EntityFault Char :=
  match name with
  | '#' :: digits => (readReference digits).mapError .reference
  | _ =>
    match entityNames.lookup name with
    | some c => .ok c
    | none => .error (.unknown first (first + byteLength name) (String.ofList name))

/-- Read on in a text of a length in bytes, at a place, behind the characters already read, latest
first. Inside an entity, `entity?` holds the place of its ampersand and its name so far, latest
character first. -/
def unescapeFrom (total place : Nat) (seen : List Char) (entity? : Option (Nat × List Char)) :
    List Char → Except EntityFault (List Char)
  | [] =>
    match entity? with
    | none => .ok seen.reverse
    | some (start, _) => .error (.openEnded start total)
  | c :: rest =>
    match entity? with
    | none =>
      if c = '&' then unescapeFrom total (place + 1) seen (some (place, [])) rest
      else unescapeFrom total (place + c.utf8Size) (c :: seen) none rest
    | some (start, name) =>
      if c = ';' then
        match resolve (start + 1) name.reverse with
        | .ok value => unescapeFrom total (place + 1) (value :: seen) none rest
        | .error fault => .error fault
      else if c = '&' then .error (.openEnded start total)
      else unescapeFrom total (place + c.utf8Size) seen (some (start, c :: name)) rest

/-- Replace every entity of a text by its character. -/
def unescape (s : List Char) : Except EntityFault (List Char) :=
  unescapeFrom (byteLength s) 0 [] none s

/-- A character as it is written in text and in attribute values. -/
def escapeChar (c : Char) : List Char :=
  if c = '<' then ['&', 'l', 't', ';']
  else if c = '>' then ['&', 'g', 't', ';']
  else if c = '&' then ['&', 'a', 'm', 'p', ';']
  else if c = '\x27' then ['&', 'a', 'p', 'o', 's', ';']
  else if c = '\x22' then ['&', 'q', 'u', 'o', 't', ';']
  else [c]

/-- Write the characters that have a meaning in markup as entities. -/
def escape (s : List Char) : List Char :=
  s.flatMap escapeChar

/-- No bracket and no quote is left in an escaped text. -/
theorem not_mem_escape {c : Char} (h : c ∈ ['<', '>', '\x27', '\x22']) (s : List Char) :
    c ∉ escape s := by
  simp only [List.mem_cons, List.not_mem_nil, or_false] at h
  simp only [escape, List.mem_flatMap, not_exists, not_and]
  intro d _
  unfold escapeChar
  rcases h with rfl | rfl | rfl | rfl <;> (repeat' split) <;> simp_all [eq_comm]

theorem unescapeFrom_escapeChar (total place : Nat) (seen : List Char) (c : Char)
    (rest : List Char) : ∃ place',
    unescapeFrom total place seen none (escapeChar c ++ rest) =
      unescapeFrom total place' (c :: seen) none rest := by
  by_cases h1 : c = '<'
  · subst h1; exact ⟨_, rfl⟩
  by_cases h2 : c = '>'
  · subst h2; exact ⟨_, rfl⟩
  by_cases h3 : c = '&'
  · subst h3; exact ⟨_, rfl⟩
  by_cases h4 : c = '\x27'
  · subst h4; exact ⟨_, rfl⟩
  by_cases h5 : c = '\x22'
  · subst h5; exact ⟨_, rfl⟩
  · exact ⟨place + c.utf8Size, by simp [escapeChar, h1, h2, h3, h4, h5, unescapeFrom]⟩

theorem unescapeFrom_escape (total place : Nat) (seen s : List Char) :
    unescapeFrom total place seen none (escape s) = .ok (seen.reverse ++ s) := by
  induction s generalizing place seen with
  | nil => simp [escape, unescapeFrom]
  | cons c s ih =>
    obtain ⟨place', h⟩ := unescapeFrom_escapeChar total place seen c (escape s)
    rw [show escape (c :: s) = escapeChar c ++ escape s from rfl, h, ih]
    simp

/-- Reading an escaped text gives back the text. -/
theorem unescape_escape (s : List Char) : unescape (escape s) = .ok s := by
  rw [unescape, unescapeFrom_escape]
  rfl

end MessageCatalog.Markup
