import MessageCatalog.Text.Letter

/-!
# Marks in interface texts

Texts of a user interface carry place markers for arguments, accelerators for the keyboard and a
punctuation mark at the end.

A place marker is a percent sign, an `L` that may be missing, and the number of an argument from 1
to 99 or the letter `n`. Markers are found from the left and do not overlap, and two digits are
preferred to one. An accelerator is an ampersand in front of a letter or digit, where two ampersands
are one that is shown.
-/

namespace MessageCatalog.Text

/-- The number of an argument at the start of a text: one digit that is not zero, and a second digit
if there is one. -/
def argument? : List Char → Option (List Char × List Char)
  | c :: d :: s =>
    if c.isDigit && c != '0' then
      if d.isDigit then some ([c, d], s) else some ([c], d :: s)
    else none
  | [c] => if c.isDigit && c != '0' then some ([c], []) else none
  | [] => none

/-- What a place marker names, given the text behind its percent sign, and the text behind it. -/
def markerName? (s : List Char) : Option (List Char × List Char) :=
  let s := match s with
    | 'L' :: s => s
    | s => s
  match s with
  | 'n' :: s => some (['n'], s)
  | s => argument? s

theorem length_of_argument? {s name rest : List Char} (h : argument? s = some (name, rest)) :
    rest.length < s.length := by
  unfold argument? at h
  split at h
  · split at h
    · split at h <;> simp only [Option.some.injEq, Prod.mk.injEq] at h <;> rw [← h.2] <;>
        simp only [List.length_cons] <;> omega
    · cases h
  · split at h
    · simp only [Option.some.injEq, Prod.mk.injEq] at h
      rw [← h.2]; simp
    · cases h
  · cases h

theorem length_of_markerName? {s name rest : List Char} (h : markerName? s = some (name, rest)) :
    rest.length < s.length := by
  have key : ∀ t : List Char,
      (match t with
        | 'n' :: s => some (['n'], s)
        | s => argument? s) = some (name, rest) → rest.length < t.length := by
    intro t ht
    split at ht
    · simp only [Option.some.injEq, Prod.mk.injEq] at ht
      rw [← ht.2]; simp
    · exact length_of_argument? ht
  unfold markerName? at h
  split at h
  · exact Nat.lt_succ_of_lt (key _ h)
  · exact key _ h

/-- The names of the place markers of a text, in order. -/
def markerNames : List Char → List String
  | [] => []
  | c :: s =>
    if c = '%' then
      match _found : markerName? s with
      | some (name, rest) => String.ofList name :: markerNames rest
      | none => markerNames s
    else markerNames s
  termination_by s => s.length
  decreasing_by
    · exact Nat.lt_succ_of_lt (length_of_markerName? _found)
    · exact Nat.lt_succ_self _
    · exact Nat.lt_succ_self _

/-- Put a text in its place in an ordered list, unless it stands there already. -/
def insertOrdered (t : String) : List String → List String
  | [] => [t]
  | u :: rest =>
    if t = u then u :: rest
    else if t < u then t :: u :: rest
    else u :: insertOrdered t rest

/-- The names of the place markers of a text, ordered and without repetition. In a text that depends
on a count the letter `n` stands for the count and is no argument. -/
def placeMarkers (s : String) (numerus : Bool) : List String :=
  let names := (markerNames s.toList).filter fun name => !(numerus && name == "n")
  names.foldl (fun found name => insertOrdered name found) []

/-- The text has an accelerator. -/
def hasAccelerator : List Char → Bool
  | [] => false
  | '&' :: '&' :: s => hasAccelerator s
  | '&' :: c :: s => isAlphanumeric c || hasAccelerator (c :: s)
  | _ :: s => hasAccelerator s

/-- The kinds of marks that end a text. -/
inductive Punctuation where
  | period
  | exclamation
  | question
  | colon
  | semicolon
  | ellipsis
  deriving DecidableEq, Repr

def Punctuation.name : Punctuation → String
  | period => "a period"
  | exclamation => "an exclamation mark"
  | question => "a question mark"
  | colon => "a colon"
  | semicolon => "a semicolon"
  | ellipsis => "an ellipsis"

/-- The kind of a mark. The marks of other scripts count as those of Latin script. -/
def Punctuation.ofChar? (c : Char) : Option Punctuation :=
  if ['.', '։', '。', '।'].contains c then some period
  else if ['!', '！'].contains c then some exclamation
  else if ['?', '？', '՞'].contains c then some question
  else if [':', '：'].contains c then some colon
  else if [';', '；'].contains c then some semicolon
  else if c = '…' then some ellipsis
  else none

/-- The kind of mark that ends a text, blanks behind it apart. -/
def endingPunctuation? (s : List Char) : Option Punctuation :=
  match s.reverse.dropWhile isBlank with
  | [] => none
  | '.' :: '.' :: '.' :: _ => some .ellipsis
  | c :: _ => Punctuation.ofChar? c

end MessageCatalog.Text
