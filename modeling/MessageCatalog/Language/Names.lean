import MessageCatalog.Language.Locale

/-!
# Names of languages

The name of a language in English and in the language itself, for the languages that reports name.
A locale name is named after its language.
-/

namespace MessageCatalog.Language

/-- What a language is called. -/
structure Names where
  english : String
  native : String
  deriving DecidableEq, Repr

/-- The names of languages by their codes, in alphabetical order of the codes. -/
def nameTable : List (String × Names) :=
  [("ar", ⟨"Arabic", "العربية"⟩),
   ("be", ⟨"Belarusian", "Беларуская"⟩),
   ("bg", ⟨"Bulgarian", "Български"⟩),
   ("ca", ⟨"Catalan", "Català"⟩),
   ("cs", ⟨"Czech", "Čeština"⟩),
   ("da", ⟨"Danish", "Dansk"⟩),
   ("de", ⟨"German", "Deutsch"⟩),
   ("el", ⟨"Greek", "Ελληνικά"⟩),
   ("en", ⟨"English", "English"⟩),
   ("eo", ⟨"Esperanto", "Esperanto"⟩),
   ("es", ⟨"Spanish", "Español"⟩),
   ("et", ⟨"Estonian", "Eesti"⟩),
   ("eu", ⟨"Basque", "Euskara"⟩),
   ("fa", ⟨"Persian", "فارسی"⟩),
   ("fi", ⟨"Finnish", "Suomi"⟩),
   ("fr", ⟨"French", "Français"⟩),
   ("ga", ⟨"Irish", "Gaeilge"⟩),
   ("gl", ⟨"Galician", "Galego"⟩),
   ("he", ⟨"Hebrew", "עברית"⟩),
   ("hi", ⟨"Hindi", "हिन्दी"⟩),
   ("hr", ⟨"Croatian", "Hrvatski"⟩),
   ("hu", ⟨"Hungarian", "Magyar"⟩),
   ("hy", ⟨"Armenian", "Հայերեն"⟩),
   ("id", ⟨"Indonesian", "Bahasa Indonesia"⟩),
   ("it", ⟨"Italian", "Italiano"⟩),
   ("ja", ⟨"Japanese", "日本語"⟩),
   ("ko", ⟨"Korean", "한국어"⟩),
   ("lt", ⟨"Lithuanian", "Lietuvių"⟩),
   ("lv", ⟨"Latvian", "Latviešu"⟩),
   ("ms", ⟨"Malay", "Bahasa Melayu"⟩),
   ("nb", ⟨"Norwegian Bokmål", "Norsk bokmål"⟩),
   ("nl", ⟨"Dutch", "Nederlands"⟩),
   ("pl", ⟨"Polish", "Polski"⟩),
   ("pt", ⟨"Portuguese", "Português"⟩),
   ("ro", ⟨"Romanian", "Română"⟩),
   ("ru", ⟨"Russian", "Русский"⟩),
   ("sk", ⟨"Slovak", "Slovenčina"⟩),
   ("sl", ⟨"Slovenian", "Slovenščina"⟩),
   ("sq", ⟨"Albanian", "Shqip"⟩),
   ("sr", ⟨"Serbian", "Српски"⟩),
   ("sv", ⟨"Swedish", "Svenska"⟩),
   ("th", ⟨"Thai", "ไทย"⟩),
   ("tr", ⟨"Turkish", "Türkçe"⟩),
   ("uk", ⟨"Ukrainian", "Українська"⟩),
   ("vi", ⟨"Vietnamese", "Tiếng Việt"⟩),
   ("zh", ⟨"Chinese", "中文"⟩)]

/-- The names of the language of a locale. -/
def names? (locale : String) : Option Names :=
  nameTable.lookup (primary locale)

end MessageCatalog.Language
