/-!
# Language codes and locale names

The two-letter codes of ISO 639-1, and locale names built on them: a language, then a script and a
territory, each of which may be missing. The parts are joined by underscores or hyphens. A script is
four letters of which the first alone is a capital; a territory is two capitals or three digits.
-/

namespace MessageCatalog.Language

/-- The codes of ISO 639-1 in alphabetical order. -/
def codes : List String :=
  ["aa", "ab", "ae", "af", "ak", "am", "an", "ar", "as", "av", "ay", "az", "ba", "be", "bg", "bh",
    "bi", "bm", "bn", "bo", "br", "bs", "ca", "ce", "ch", "co", "cr", "cs", "cu", "cv", "cy", "da",
    "de", "dv", "dz", "ee", "el", "en", "eo", "es", "et", "eu", "fa", "ff", "fi", "fj", "fo", "fr",
    "fy", "ga", "gd", "gl", "gn", "gu", "gv", "ha", "he", "hi", "ho", "hr", "ht", "hu", "hy", "hz",
    "ia", "id", "ie", "ig", "ii", "ik", "io", "is", "it", "iu", "ja", "jv", "ka", "kg", "ki", "kj",
    "kk", "kl", "km", "kn", "ko", "kr", "ks", "ku", "kv", "kw", "ky", "la", "lb", "lg", "li", "ln",
    "lo", "lt", "lu", "lv", "mg", "mh", "mi", "mk", "ml", "mn", "mr", "ms", "mt", "my", "na", "nb",
    "nd", "ne", "ng", "nl", "nn", "no", "nr", "nv", "ny", "oc", "oj", "om", "or", "os", "pa", "pi",
    "pl", "ps", "pt", "qu", "rm", "rn", "ro", "ru", "rw", "sa", "sc", "sd", "se", "sg", "si", "sk",
    "sl", "sm", "sn", "so", "sq", "sr", "ss", "st", "su", "sv", "sw", "ta", "te", "tg", "th", "ti",
    "tk", "tl", "tn", "to", "tr", "ts", "tt", "tw", "ty", "ug", "uk", "ur", "uz", "ve", "vi", "vo",
    "wa", "wo", "xh", "yi", "yo", "za", "zh", "zu"]

/-- The text is the code of a language. -/
def isCode (code : String) : Bool :=
  codes.contains code

/-- A character that joins the parts of a locale name. -/
def isJoint (c : Char) : Bool :=
  c == '_' || c == '-'

/-- The parts of a locale name, given the part at hand with its latest character first. -/
def splitFrom (held : List Char) : List Char → List (List Char)
  | [] => [held.reverse]
  | c :: s => if isJoint c then held.reverse :: splitFrom [] s else splitFrom (c :: held) s

/-- The parts of a locale name. There is always a first one, which may be empty. -/
def parts (locale : String) : List (List Char) :=
  splitFrom [] locale.toList

/-- The language of a locale name. -/
def primary (locale : String) : String :=
  String.ofList (locale.toList.takeWhile (!isJoint ·))

/-- Four letters, of which the first alone is a capital. -/
def isScript : List Char → Bool
  | c :: rest => c.isUpper && decide (rest.length = 3) && rest.all Char.isLower
  | [] => false

/-- Two capitals or three digits. -/
def isTerritory (part : List Char) : Bool :=
  decide (part.length = 2) && part.all Char.isUpper ||
    decide (part.length = 3) && part.all Char.isDigit

/-- The text is a locale name. -/
def isLocale (locale : String) : Bool :=
  match parts locale with
  | [] => false
  | language :: rest =>
    isCode (String.ofList language) &&
      (match rest with
       | [] => true
       | [part] => isScript part || isTerritory part
       | [script, territory] => isScript script && isTerritory territory
       | _ => false)

end MessageCatalog.Language
