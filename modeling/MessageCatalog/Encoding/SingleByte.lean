/-!
# Encodings of one byte for each character

Every one of these encodings agrees with ASCII on the lower half of the bytes. The upper half is a
table of a hundred and twenty-eight characters, in which the replacement character marks a byte that
stands for nothing. The tables are those of the Encoding Standard for the web.
-/

namespace MessageCatalog.Encoding

/-- An encoding of one byte for each character. -/
structure SingleByte where
  name : String
  /-- The characters of the bytes from 0x80 on. -/
  upper : String
  deriving DecidableEq, Repr

namespace SingleByte

/-- The control characters that many encodings have at the bytes from 0x80 to 0x9F. -/
def controls : String :=
  String.join ["\u0080\u0081\u0082\u0083\u0084\u0085\u0086\u0087",
    "\u0088\u0089\u008a\u008b\u008c\u008d\u008e\u008f",
    "\u0090\u0091\u0092\u0093\u0094\u0095\u0096\u0097",
    "\u0098\u0099\u009a\u009b\u009c\u009d\u009e\u009f"]

def ibm866 : SingleByte where
  name := "IBM866"
  upper :=
    String.join ["АБВГДЕЖЗИЙКЛМНОП",
      "РСТУФХЦЧШЩЪЫЬЭЮЯ",
      "абвгдежзийклмноп",
      "░▒▓│┤╡╢╖╕╣║╗╝╜╛┐",
      "└┴┬├─┼╞╟╚╔╩╦╠═╬╧",
      "╨╤╥╙╘╒╓╫╪┘┌█▄▌▐▀",
      "рстуфхцчшщъыьэюя",
      "ЁёЄєЇїЎў°∙·√№¤■\u00a0"]

def latin2 : SingleByte where
  name := "ISO-8859-2"
  upper :=
    String.join [controls,
      "\u00a0Ą˘Ł¤ĽŚ§¨ŠŞŤŹ\u00adŽŻ",
      "°ą˛ł´ľśˇ¸šşťź˝žż",
      "ŔÁÂĂÄĹĆÇČÉĘËĚÍÎĎ",
      "ĐŃŇÓÔŐÖ×ŘŮÚŰÜÝŢß",
      "ŕáâăäĺćçčéęëěíîď",
      "đńňóôőö÷řůúűüýţ˙"]

def latin3 : SingleByte where
  name := "ISO-8859-3"
  upper :=
    String.join [controls,
      "\u00a0Ħ˘£¤\ufffdĤ§¨İŞĞĴ\u00ad\ufffdŻ",
      "°ħ²³´µĥ·¸ışğĵ½\ufffdż",
      "ÀÁÂ\ufffdÄĊĈÇÈÉÊËÌÍÎÏ",
      "\ufffdÑÒÓÔĠÖ×ĜÙÚÛÜŬŜß",
      "àáâ\ufffdäċĉçèéêëìíîï",
      "\ufffdñòóôġö÷ĝùúûüŭŝ˙"]

def latin4 : SingleByte where
  name := "ISO-8859-4"
  upper :=
    String.join [controls,
      "\u00a0ĄĸŖ¤ĨĻ§¨ŠĒĢŦ\u00adŽ¯",
      "°ą˛ŗ´ĩļˇ¸šēģŧŊžŋ",
      "ĀÁÂÃÄÅÆĮČÉĘËĖÍÎĪ",
      "ĐŅŌĶÔÕÖ×ØŲÚÛÜŨŪß",
      "āáâãäåæįčéęëėíîī",
      "đņōķôõö÷øųúûüũū˙"]

def latinCyrillic : SingleByte where
  name := "ISO-8859-5"
  upper :=
    String.join [controls,
      "\u00a0ЁЂЃЄЅІЇЈЉЊЋЌ\u00adЎЏ",
      "АБВГДЕЖЗИЙКЛМНОП",
      "РСТУФХЦЧШЩЪЫЬЭЮЯ",
      "абвгдежзийклмноп",
      "рстуфхцчшщъыьэюя",
      "№ёђѓєѕіїјљњћќ§ўџ"]

def latinArabic : SingleByte where
  name := "ISO-8859-6"
  upper :=
    String.join [controls,
      "\u00a0\ufffd\ufffd\ufffd¤\ufffd\ufffd\ufffd\ufffd\ufffd\ufffd\ufffd،\u00ad\ufffd\ufffd",
      "\ufffd\ufffd\ufffd\ufffd\ufffd\ufffd\ufffd\ufffd\ufffd\ufffd\ufffd؛\ufffd\ufffd\ufffd؟",
      "\ufffdءآأؤإئابةتثجحخد",
      "ذرزسشصضطظعغ\ufffd\ufffd\ufffd\ufffd\ufffd",
      "ـفقكلمنهوىي\u064b\u064c\u064d\u064e\u064f",
      "\u0650\u0651\u0652\ufffd\ufffd\ufffd\ufffd\ufffd",
      "\ufffd\ufffd\ufffd\ufffd\ufffd\ufffd\ufffd\ufffd"]

def latinGreek : SingleByte where
  name := "ISO-8859-7"
  upper :=
    String.join [controls,
      "\u00a0‘’£€₯¦§¨©ͺ«¬\u00ad\ufffd―",
      "°±²³΄΅Ά·ΈΉΊ»Ό½ΎΏ",
      "ΐΑΒΓΔΕΖΗΘΙΚΛΜΝΞΟ",
      "ΠΡ\ufffdΣΤΥΦΧΨΩΪΫάέήί",
      "ΰαβγδεζηθικλμνξο",
      "πρςστυφχψωϊϋόύώ\ufffd"]

def latinHebrew : SingleByte where
  name := "ISO-8859-8"
  upper :=
    String.join [controls,
      "\u00a0\ufffd¢£¤¥¦§¨©×«¬\u00ad®¯",
      "°±²³´µ¶·¸¹÷»¼½¾\ufffd",
      "\ufffd\ufffd\ufffd\ufffd\ufffd\ufffd\ufffd\ufffd",
      "\ufffd\ufffd\ufffd\ufffd\ufffd\ufffd\ufffd\ufffd",
      "\ufffd\ufffd\ufffd\ufffd\ufffd\ufffd\ufffd\ufffd\ufffd\ufffd\ufffd\ufffd\ufffd\ufffd\ufffd‗",
      "אבגדהוזחטיךכלםמן",
      "נסעףפץצקרשת\ufffd\ufffd\u200e\u200f\ufffd"]

def latinHebrewLogical : SingleByte where
  name := "ISO-8859-8-I"
  upper :=
    String.join [controls,
      "\u00a0\ufffd¢£¤¥¦§¨©×«¬\u00ad®¯",
      "°±²³´µ¶·¸¹÷»¼½¾\ufffd",
      "\ufffd\ufffd\ufffd\ufffd\ufffd\ufffd\ufffd\ufffd",
      "\ufffd\ufffd\ufffd\ufffd\ufffd\ufffd\ufffd\ufffd",
      "\ufffd\ufffd\ufffd\ufffd\ufffd\ufffd\ufffd\ufffd\ufffd\ufffd\ufffd\ufffd\ufffd\ufffd\ufffd‗",
      "אבגדהוזחטיךכלםמן",
      "נסעףפץצקרשת\ufffd\ufffd\u200e\u200f\ufffd"]

def latin6 : SingleByte where
  name := "ISO-8859-10"
  upper :=
    String.join [controls,
      "\u00a0ĄĒĢĪĨĶ§ĻĐŠŦŽ\u00adŪŊ",
      "°ąēģīĩķ·ļđšŧž―ūŋ",
      "ĀÁÂÃÄÅÆĮČÉĘËĖÍÎÏ",
      "ÐŅŌÓÔÕÖŨØŲÚÛÜÝÞß",
      "āáâãäåæįčéęëėíîï",
      "ðņōóôõöũøųúûüýþĸ"]

def latin7 : SingleByte where
  name := "ISO-8859-13"
  upper :=
    String.join [controls,
      "\u00a0”¢£¤„¦§Ø©Ŗ«¬\u00ad®Æ",
      "°±²³“µ¶·ø¹ŗ»¼½¾æ",
      "ĄĮĀĆÄÅĘĒČÉŹĖĢĶĪĻ",
      "ŠŃŅÓŌÕÖ×ŲŁŚŪÜŻŽß",
      "ąįāćäåęēčéźėģķīļ",
      "šńņóōõö÷ųłśūüżž’"]

def latin8 : SingleByte where
  name := "ISO-8859-14"
  upper :=
    String.join [controls,
      "\u00a0Ḃḃ£ĊċḊ§Ẁ©ẂḋỲ\u00ad®Ÿ",
      "ḞḟĠġṀṁ¶ṖẁṗẃṠỳẄẅṡ",
      "ÀÁÂÃÄÅÆÇÈÉÊËÌÍÎÏ",
      "ŴÑÒÓÔÕÖṪØÙÚÛÜÝŶß",
      "àáâãäåæçèéêëìíîï",
      "ŵñòóôõöṫøùúûüýŷÿ"]

def latin9 : SingleByte where
  name := "ISO-8859-15"
  upper :=
    String.join [controls,
      "\u00a0¡¢£€¥Š§š©ª«¬\u00ad®¯",
      "°±²³Žµ¶·ž¹º»ŒœŸ¿",
      "ÀÁÂÃÄÅÆÇÈÉÊËÌÍÎÏ",
      "ÐÑÒÓÔÕÖ×ØÙÚÛÜÝÞß",
      "àáâãäåæçèéêëìíîï",
      "ðñòóôõö÷øùúûüýþÿ"]

def latin10 : SingleByte where
  name := "ISO-8859-16"
  upper :=
    String.join [controls,
      "\u00a0ĄąŁ€„Š§š©Ș«Ź\u00adźŻ",
      "°±ČłŽ”¶·žčș»ŒœŸż",
      "ÀÁÂĂÄĆÆÇÈÉÊËÌÍÎÏ",
      "ĐŃÒÓÔŐÖŚŰÙÚÛÜĘȚß",
      "àáâăäćæçèéêëìíîï",
      "đńòóôőöśűùúûüęțÿ"]

def koi8r : SingleByte where
  name := "KOI8-R"
  upper :=
    String.join ["─│┌┐└┘├┤┬┴┼▀▄█▌▐",
      "░▒▓⌠■∙√≈≤≥\u00a0⌡°²·÷",
      "═║╒ё╓╔╕╖╗╘╙╚╛╜╝╞",
      "╟╠╡Ё╢╣╤╥╦╧╨╩╪╫╬©",
      "юабцдефгхийклмно",
      "пярстужвьызшэщчъ",
      "ЮАБЦДЕФГХИЙКЛМНО",
      "ПЯРСТУЖВЬЫЗШЭЩЧЪ"]

def koi8u : SingleByte where
  name := "KOI8-U"
  upper :=
    String.join ["─│┌┐└┘├┤┬┴┼▀▄█▌▐",
      "░▒▓⌠■∙√≈≤≥\u00a0⌡°²·÷",
      "═║╒ёє╔ії╗╘╙╚╛ґў╞",
      "╟╠╡ЁЄ╣ІЇ╦╧╨╩╪ҐЎ©",
      "юабцдефгхийклмно",
      "пярстужвьызшэщчъ",
      "ЮАБЦДЕФГХИЙКЛМНО",
      "ПЯРСТУЖВЬЫЗШЭЩЧЪ"]

def macintosh : SingleByte where
  name := "macintosh"
  upper :=
    String.join ["ÄÅÇÉÑÖÜáàâäãåçéè",
      "êëíìîïñóòôöõúùûü",
      "†°¢£§•¶ß®©™´¨≠ÆØ",
      "∞±≤≥¥µ∂∑∏π∫ªºΩæø",
      "¿¡¬√ƒ≈∆«»…\u00a0ÀÃÕŒœ",
      "–—“”‘’÷◊ÿŸ⁄€‹›ﬁﬂ",
      "‡·‚„‰ÂÊÁËÈÍÎÏÌÓÔ",
      "\uf8ffÒÚÛÙıˆ˜¯˘˙˚¸˝˛ˇ"]

def windows874 : SingleByte where
  name := "windows-874"
  upper :=
    String.join ["€\u0081\u0082\u0083\u0084…\u0086\u0087",
      "\u0088\u0089\u008a\u008b\u008c\u008d\u008e\u008f",
      "\u0090‘’“”•–—\u0098\u0099\u009a\u009b\u009c\u009d\u009e\u009f",
      "\u00a0กขฃคฅฆงจฉชซฌญฎฏ",
      "ฐฑฒณดตถทธนบปผฝพฟ",
      "ภมยรฤลฦวศษสหฬอฮฯ",
      "ะ\u0e31าำ\u0e34\u0e35\u0e36\u0e37\u0e38\u0e39\u0e3a\ufffd\ufffd\ufffd\ufffd฿",
      "เแโใไๅๆ\u0e47\u0e48\u0e49\u0e4a\u0e4b\u0e4c\u0e4d\u0e4e๏",
      "๐๑๒๓๔๕๖๗๘๙๚๛\ufffd\ufffd\ufffd\ufffd"]

def windows1250 : SingleByte where
  name := "windows-1250"
  upper :=
    String.join ["€\u0081‚\u0083„…†‡\u0088‰Š‹ŚŤŽŹ",
      "\u0090‘’“”•–—\u0098™š›śťžź",
      "\u00a0ˇ˘Ł¤Ą¦§¨©Ş«¬\u00ad®Ż",
      "°±˛ł´µ¶·¸ąş»Ľ˝ľż",
      "ŔÁÂĂÄĹĆÇČÉĘËĚÍÎĎ",
      "ĐŃŇÓÔŐÖ×ŘŮÚŰÜÝŢß",
      "ŕáâăäĺćçčéęëěíîď",
      "đńňóôőö÷řůúűüýţ˙"]

def windows1251 : SingleByte where
  name := "windows-1251"
  upper :=
    String.join ["ЂЃ‚ѓ„…†‡€‰Љ‹ЊЌЋЏ",
      "ђ‘’“”•–—\u0098™љ›њќћџ",
      "\u00a0ЎўЈ¤Ґ¦§Ё©Є«¬\u00ad®Ї",
      "°±Ііґµ¶·ё№є»јЅѕї",
      "АБВГДЕЖЗИЙКЛМНОП",
      "РСТУФХЦЧШЩЪЫЬЭЮЯ",
      "абвгдежзийклмноп",
      "рстуфхцчшщъыьэюя"]

def windows1252 : SingleByte where
  name := "windows-1252"
  upper :=
    String.join ["€\u0081‚ƒ„…†‡ˆ‰Š‹Œ\u008dŽ\u008f",
      "\u0090‘’“”•–—˜™š›œ\u009džŸ",
      "\u00a0¡¢£¤¥¦§¨©ª«¬\u00ad®¯",
      "°±²³´µ¶·¸¹º»¼½¾¿",
      "ÀÁÂÃÄÅÆÇÈÉÊËÌÍÎÏ",
      "ÐÑÒÓÔÕÖ×ØÙÚÛÜÝÞß",
      "àáâãäåæçèéêëìíîï",
      "ðñòóôõö÷øùúûüýþÿ"]

def windows1253 : SingleByte where
  name := "windows-1253"
  upper :=
    String.join ["€\u0081‚ƒ„…†‡\u0088‰\u008a‹\u008c\u008d\u008e\u008f",
      "\u0090‘’“”•–—\u0098™\u009a›\u009c\u009d\u009e\u009f",
      "\u00a0΅Ά£¤¥¦§¨©\ufffd«¬\u00ad®―",
      "°±²³΄µ¶·ΈΉΊ»Ό½ΎΏ",
      "ΐΑΒΓΔΕΖΗΘΙΚΛΜΝΞΟ",
      "ΠΡ\ufffdΣΤΥΦΧΨΩΪΫάέήί",
      "ΰαβγδεζηθικλμνξο",
      "πρςστυφχψωϊϋόύώ\ufffd"]

def windows1254 : SingleByte where
  name := "windows-1254"
  upper :=
    String.join ["€\u0081‚ƒ„…†‡ˆ‰Š‹Œ\u008d\u008e\u008f",
      "\u0090‘’“”•–—˜™š›œ\u009d\u009eŸ",
      "\u00a0¡¢£¤¥¦§¨©ª«¬\u00ad®¯",
      "°±²³´µ¶·¸¹º»¼½¾¿",
      "ÀÁÂÃÄÅÆÇÈÉÊËÌÍÎÏ",
      "ĞÑÒÓÔÕÖ×ØÙÚÛÜİŞß",
      "àáâãäåæçèéêëìíîï",
      "ğñòóôõö÷øùúûüışÿ"]

def windows1255 : SingleByte where
  name := "windows-1255"
  upper :=
    String.join ["€\u0081‚ƒ„…†‡ˆ‰\u008a‹\u008c\u008d\u008e\u008f",
      "\u0090‘’“”•–—˜™\u009a›\u009c\u009d\u009e\u009f",
      "\u00a0¡¢£₪¥¦§¨©×«¬\u00ad®¯",
      "°±²³´µ¶·¸¹÷»¼½¾¿",
      "\u05b0\u05b1\u05b2\u05b3\u05b4\u05b5\u05b6\u05b7",
      "\u05b8\u05b9\u05ba\u05bb\u05bc\u05bd\u05be\u05bf",
      "\u05c0\u05c1\u05c2\u05c3װױײ׳״\ufffd\ufffd\ufffd\ufffd\ufffd\ufffd\ufffd",
      "אבגדהוזחטיךכלםמן",
      "נסעףפץצקרשת\ufffd\ufffd\u200e\u200f\ufffd"]

def windows1256 : SingleByte where
  name := "windows-1256"
  upper :=
    String.join ["€پ‚ƒ„…†‡ˆ‰ٹ‹Œچژڈ",
      "گ‘’“”•–—ک™ڑ›œ\u200c\u200dں",
      "\u00a0،¢£¤¥¦§¨©ھ«¬\u00ad®¯",
      "°±²³´µ¶·¸¹؛»¼½¾؟",
      "ہءآأؤإئابةتثجحخد",
      "ذرزسشصض×طظعغـفقك",
      "àلâمنهوçèéêëىيîï",
      "\u064b\u064c\u064d\u064eô\u064f\u0650÷\u0651ù\u0652ûü\u200e\u200fے"]

def windows1257 : SingleByte where
  name := "windows-1257"
  upper :=
    String.join ["€\u0081‚\u0083„…†‡\u0088‰\u008a‹\u008c¨ˇ¸",
      "\u0090‘’“”•–—\u0098™\u009a›\u009c¯˛\u009f",
      "\u00a0\ufffd¢£¤\ufffd¦§Ø©Ŗ«¬\u00ad®Æ",
      "°±²³´µ¶·ø¹ŗ»¼½¾æ",
      "ĄĮĀĆÄÅĘĒČÉŹĖĢĶĪĻ",
      "ŠŃŅÓŌÕÖ×ŲŁŚŪÜŻŽß",
      "ąįāćäåęēčéźėģķīļ",
      "šńņóōõö÷ųłśūüżž˙"]

def windows1258 : SingleByte where
  name := "windows-1258"
  upper :=
    String.join ["€\u0081‚ƒ„…†‡ˆ‰\u008a‹Œ\u008d\u008e\u008f",
      "\u0090‘’“”•–—˜™\u009a›œ\u009d\u009eŸ",
      "\u00a0¡¢£¤¥¦§¨©ª«¬\u00ad®¯",
      "°±²³´µ¶·¸¹º»¼½¾¿",
      "ÀÁÂĂÄÅÆÇÈÉÊË\u0300ÍÎÏ",
      "ĐÑ\u0309ÓÔƠÖ×ØÙÚÛÜƯ\u0303ß",
      "àáâăäåæçèéêë\u0301íîï",
      "đñ\u0323óôơö÷øùúûüư₫ÿ"]

def macCyrillic : SingleByte where
  name := "x-mac-cyrillic"
  upper :=
    String.join ["АБВГДЕЖЗИЙКЛМНОП",
      "РСТУФХЦЧШЩЪЫЬЭЮЯ",
      "†°Ґ£§•¶І®©™Ђђ≠Ѓѓ",
      "∞±≤≥іµґЈЄєЇїЉљЊњ",
      "јЅ¬√ƒ≈∆«»…\u00a0ЋћЌќѕ",
      "–—“”‘’÷„ЎўЏџ№Ёёя",
      "абвгдежзийклмноп",
      "рстуфхцчшщъыьэю€"]

/-- The character of a byte, if it stands for one. -/
def char? (e : SingleByte) (b : UInt8) : Option Char :=
  if b.toNat < 0x80 then some (Char.ofNat b.toNat)
  else (e.upper.toList[b.toNat - 0x80]?).filter (· != Char.ofNat 0xFFFD)

end SingleByte

end MessageCatalog.Encoding
