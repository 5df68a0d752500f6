import MessageCatalog.Text.Numeral

/-!
# Filling in texts

Two ways to fill in a text. `substitute` puts arguments in the place of `%1` to `%99`: a percent
sign takes the digits behind it, two at most, and stands for the argument with that number, if there
is one; otherwise the sign is left alone and the search goes on behind it. What has been put in is
never looked at again. `replaceCount` puts a count in the place of `%n` and `%Ln`.
-/

namespace MessageCatalog.Lookup

/-- The digits at the start of a text, two at most. -/
def leadingDigits (s : List Char) : List Char :=
  (s.take 2).takeWhile Char.isDigit

/-- The number that one or two digits name. -/
def numberOf (digits : List Char) : Nat :=
  digits.foldl (fun n c => 10 * n + (c.toNat - '0'.toNat)) 0

/-- The argument that a percent sign stands for, given the text behind the sign. Arguments are
numbered from one. -/
def argument? (args : List String) (s : List Char) : Option String :=
  match numberOf (leadingDigits s) with
  | 0 => none
  | n + 1 => args[n]?

/-- Fill in a text, behind what is filled in already. -/
def substituteFrom (args : List String) (done : String) (s : List Char) : String :=
  match s with
  | [] => done
  | c :: s =>
    if c = '%' then
      match argument? args s with
      | some arg => substituteFrom args (done ++ arg) (s.drop (leadingDigits s).length)
      | none => substituteFrom args (done.push c) s
    else substituteFrom args (done.push c) s
  termination_by s.length
  decreasing_by all_goals simp only [List.length_drop, List.length_cons]; omega

/-- Put arguments in the places of their markers. -/
def substitute (template : String) (args : List String) : String :=
  substituteFrom args "" template.toList

/-- Put a text in the place of every occurrence of a word, from the left and without overlap. The
word is given by its first character and the others. -/
def replaceAll (first : Char) (others value s : List Char) : List Char :=
  match s with
  | [] => []
  | c :: s =>
    if c = first ∧ others.isPrefixOf s then
      value ++ replaceAll first others value (s.drop others.length)
    else c :: replaceAll first others value s
  termination_by s.length
  decreasing_by all_goals simp only [List.length_drop, List.length_cons]; omega

/-- Put a count in the place of `%Ln` and then of `%n`. -/
def replaceCount (template : String) (n : Int) : String :=
  let digits := Text.signedDecimal n
  String.ofList (replaceAll '%' ['n'] digits (replaceAll '%' ['L', 'n'] digits template.toList))

end MessageCatalog.Lookup
