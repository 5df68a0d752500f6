import MessageCatalog.Language.Locale

/-!
# Plural rules

Which form of a text goes with a count. Every language follows one of eleven rules; a language that
is not listed follows the English one. The sign of a count plays no part. Main statement: the form
that a rule picks is always one of its forms (`formIndex_lt`).
-/

namespace MessageCatalog.Language

inductive PluralRule where
  /-- One form. -/
  | singleForm
  /-- One; other. -/
  | englishStyle
  /-- Zero and one; other. -/
  | frenchStyle
  /-- One; two to four; other. -/
  | czech
  /-- One; ending in two to four but not in twelve to fourteen; other. -/
  | polish
  /-- Ending in one but not eleven; ending in two to four but not twelve to fourteen; other. -/
  | russianStyle
  /-- Ending in 01; ending in 02; ending in 03 or 04; other. -/
  | slovenian
  /-- One; two; other. -/
  | irish
  /-- Ending in one but not in eleven; ending in two to nine but not in ten to nineteen; other. -/
  | lithuanian
  /-- Ending in one but not in eleven; not zero; zero. -/
  | latvian
  /-- One; zero or ending in 01 to 19; other. -/
  | romanian
  deriving DecidableEq, Repr

namespace PluralRule

def all : List PluralRule :=
  [singleForm, englishStyle, frenchStyle, czech, polish, russianStyle, slovenian, irish,
    lithuanian, latvian, romanian]

def name : PluralRule → String
  | singleForm => "single-form"
  | englishStyle => "english-style"
  | frenchStyle => "french-style"
  | czech => "czech"
  | polish => "polish"
  | russianStyle => "russian-style"
  | slovenian => "slovenian"
  | irish => "irish"
  | lithuanian => "lithuanian"
  | latvian => "latvian"
  | romanian => "romanian"

def ofName? (word : String) : Option PluralRule :=
  all.find? (·.name == word)

/-- The languages of the rules other than the English one. -/
def languages : List (PluralRule × List String) :=
  [(singleForm, ["ja", "zh", "ko", "vi", "th", "id", "ms", "tr", "fa", "ka", "lo", "my", "bo",
      "dz", "km"]),
   (frenchStyle, ["fr", "hy", "ak", "am", "ln", "mg", "ti", "wa", "oc"]),
   (czech, ["cs", "sk"]),
   (polish, ["pl"]),
   (russianStyle, ["ru", "uk", "be", "sr", "hr", "bs"]),
   (slovenian, ["sl"]),
   (irish, ["ga"]),
   (lithuanian, ["lt"]),
   (latvian, ["lv"]),
   (romanian, ["ro"])]

/-- The rule of a locale. Brazilian Portuguese follows the French rule. -/
def ofLocale (locale : String) : PluralRule :=
  if locale = "pt_BR" ∨ locale = "pt-BR" then frenchStyle
  else ((languages.find? (·.2.contains (primary locale))).map (·.1)).getD englishStyle

/-- How many forms a text has under a rule. -/
def formCount : PluralRule → Nat
  | singleForm => 1
  | englishStyle | frenchStyle => 2
  | czech | polish | russianStyle | irish | lithuanian | latvian | romanian => 3
  | slovenian => 4

/-- The last two digits of a count lie between two bounds. -/
def endsBetween (n low high : Nat) : Bool :=
  decide (low ≤ n % 100) && decide (n % 100 ≤ high)

/-- The last digit of a count lies between two bounds. -/
def lastBetween (n low high : Nat) : Bool :=
  decide (low ≤ n % 10) && decide (n % 10 ≤ high)

/-- The position of the form for a count without its sign. -/
def formOf (rule : PluralRule) (n : Nat) : Nat :=
  match rule with
  | singleForm => 0
  | englishStyle => if n = 1 then 0 else 1
  | frenchStyle => if n ≤ 1 then 0 else 1
  | czech => if n = 1 then 0 else if 2 ≤ n ∧ n ≤ 4 then 1 else 2
  | polish =>
    if n = 1 then 0 else if lastBetween n 2 4 ∧ ¬ endsBetween n 12 14 then 1 else 2
  | russianStyle =>
    if n % 10 = 1 ∧ n % 100 ≠ 11 then 0
    else if lastBetween n 2 4 ∧ ¬ endsBetween n 12 14 then 1
    else 2
  | slovenian =>
    if n % 100 = 1 then 0
    else if n % 100 = 2 then 1
    else if n % 100 = 3 ∨ n % 100 = 4 then 2
    else 3
  | irish => if n = 1 then 0 else if n = 2 then 1 else 2
  | lithuanian =>
    if n % 10 = 1 ∧ n % 100 ≠ 11 then 0
    else if 2 ≤ n % 10 ∧ ¬ endsBetween n 10 19 then 1
    else 2
  | latvian =>
    if n % 10 = 1 ∧ n % 100 ≠ 11 then 0 else if n ≠ 0 then 1 else 2
  | romanian =>
    if n = 1 then 0 else if n = 0 ∨ endsBetween n 1 19 then 1 else 2

/-- The position of the form for a count. -/
def formIndex (rule : PluralRule) (n : Int) : Nat :=
  rule.formOf n.natAbs

theorem formCount_pos (rule : PluralRule) : 0 < rule.formCount := by
  cases rule <;> decide

theorem formOf_lt (rule : PluralRule) (n : Nat) : rule.formOf n < rule.formCount := by
  cases rule <;> simp only [formOf, formCount] <;> (repeat' split) <;> omega

/-- The form for a count is one of the forms of the rule. -/
theorem formIndex_lt (rule : PluralRule) (n : Int) : rule.formIndex n < rule.formCount :=
  rule.formOf_lt n.natAbs

end PluralRule

end MessageCatalog.Language
