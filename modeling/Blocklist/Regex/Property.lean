/-!
Names of character properties in regular expressions. Case, blanks, underscores and hyphens
do not count, nor does a leading `is`.
-/

namespace Blocklist.Regex.Property

/-- General categories of characters, with the unions of them that have names. -/
def generalCategories : List String :=
  ["c", "cc", "cf", "cn", "co", "l", "lc", "ll", "lm", "lo", "lt", "lu", "m", "mc", "me", "mn",
    "n", "nd", "nl", "no", "p", "pc", "pd", "pe", "pf", "pi", "po", "ps", "s", "sc", "sk", "sm",
    "so", "z", "zl", "zp", "zs", "other", "control", "cntrl", "format", "unassigned",
    "privateuse", "letter", "casedletter", "lowercaseletter", "modifierletter", "otherletter",
    "titlecaseletter", "uppercaseletter", "mark", "combiningmark", "spacingmark", "enclosingmark",
    "nonspacingmark", "number", "decimalnumber", "digit", "letternumber", "othernumber",
    "punctuation", "punct", "connectorpunctuation", "dashpunctuation", "closepunctuation",
    "finalpunctuation", "initialpunctuation", "otherpunctuation", "openpunctuation", "symbol",
    "currencysymbol", "modifiersymbol", "mathsymbol", "othersymbol", "separator", "lineseparator",
    "paragraphseparator", "spaceseparator", "any", "ascii", "assigned"]

/-- Scripts, by their names and codes. -/
def scripts : List String :=
  ["adlam", "adlm", "ahom", "anatolianhieroglyphs", "hluw", "arabic", "arab", "armenian", "armn",
    "avestan", "avst", "balinese", "bali", "bamum", "bamu", "bassavah", "bass", "batak", "batk",
    "bengali", "beng", "bhaiksuki", "bhks", "bopomofo", "bopo", "brahmi", "brah", "braille",
    "brai", "buginese", "bugi", "buhid", "buhd", "canadianaboriginal", "cans", "carian", "cari",
    "caucasianalbanian", "aghb", "chakma", "cakm", "cham", "cherokee", "cher", "chorasmian",
    "chrs", "common", "zyyy", "coptic", "copt", "qaac", "cuneiform", "xsux", "cypriot", "cprt",
    "cyprominoan", "cpmn", "cyrillic", "cyrl", "deseret", "dsrt", "devanagari", "deva",
    "divesakuru", "diak", "dogra", "dogr", "duployan", "dupl", "egyptianhieroglyphs", "egyp",
    "elbasan", "elba", "elymaic", "elym", "ethiopic", "ethi", "garay", "gara", "georgian", "geor",
    "glagolitic", "glag", "gothic", "goth", "grantha", "gran", "greek", "grek", "gujarati",
    "gujr", "gunjalagondi", "gong", "gurmukhi", "guru", "gurungkhema", "gukh", "han", "hani",
    "hangul", "hang", "hanifirohingya", "rohg", "hanunoo", "hano", "hatran", "hatr", "hebrew",
    "hebr", "hiragana", "hira", "imperialaramaic", "armi", "inherited", "zinh", "qaai",
    "inscriptionalpahlavi", "phli", "inscriptionalparthian", "prti", "javanese", "java", "kaithi",
    "kthi", "kannada", "knda", "katakana", "kana", "kawi", "kayahli", "kali", "kharoshthi",
    "khar", "khitansmallscript", "kits", "khmer", "khmr", "khojki", "khoj", "khudawadi", "sind",
    "kiratrai", "krai", "lao", "laoo", "latin", "latn", "lepcha", "lepc", "limbu", "limb",
    "lineara", "lina", "linearb", "linb", "lisu", "lycian", "lyci", "lydian", "lydi", "mahajani",
    "mahj", "makasar", "maka", "malayalam", "mlym", "mandaic", "mand", "manichaean", "mani",
    "marchen", "marc", "masaramgondi", "gonm", "medefaidrin", "medf", "meeteimayek", "mtei",
    "mendekikakui", "mend", "meroiticcursive", "merc", "meroitichieroglyphs", "mero", "miao",
    "plrd", "modi", "mongolian", "mong", "mro", "mroo", "multani", "mult", "myanmar", "mymr",
    "nabataean", "nbat", "nagmundari", "nagm", "nandinagari", "nand", "newtailue", "talu", "newa",
    "nko", "nkoo", "nushu", "nshu", "nyiakengpuachuehmong", "hmnp", "ogham", "ogam", "olchiki",
    "olck", "oldhungarian", "hung", "olditalic", "ital", "oldnortharabian", "narb", "oldpermic",
    "perm", "oldpersian", "xpeo", "oldsogdian", "sogo", "oldsoutharabian", "sarb", "oldturkic",
    "orkh", "olduyghur", "ougr", "olonal", "onao", "oriya", "orya", "osage", "osge", "osmanya",
    "osma", "pahawhhmong", "hmng", "palmyrene", "palm", "paucinhau", "pauc", "phagspa", "phag",
    "phoenician", "phnx", "psalterpahlavi", "phlp", "rejang", "rjng", "runic", "runr",
    "samaritan", "samr", "saurashtra", "saur", "sharada", "shrd", "shavian", "shaw", "siddham",
    "sidd", "signwriting", "sgnw", "sinhala", "sinh", "sogdian", "sogd", "sorasompeng", "sora",
    "soyombo", "soyo", "sundanese", "sund", "sunuwar", "sunu", "sylotinagri", "sylo", "syriac",
    "syrc", "tagalog", "tglg", "tagbanwa", "tagb", "taile", "tale", "taitham", "lana", "taiviet",
    "tavt", "takri", "takr", "tamil", "taml", "tangsa", "tnsa", "tangut", "tang", "telugu",
    "telu", "thaana", "thaa", "thai", "tibetan", "tibt", "tifinagh", "tfng", "tirhuta", "tirh",
    "todhri", "todr", "toto", "tulutigalari", "tutg", "ugaritic", "ugar", "vai", "vaii",
    "vithkuqi", "vith", "wancho", "wcho", "warangciti", "wara", "yezidi", "yezi", "yi", "yiii",
    "zanabazarsquare", "zanb"]

/-- Properties a character either has or has not. -/
def binaryProperties : List String :=
  ["asciihexdigit", "ahex", "alphabetic", "alpha", "bidicontrol", "bidic", "bidimirrored",
    "bidim", "caseignorable", "ci", "cased", "changeswhencasefolded", "cwcf",
    "changeswhencasemapped", "cwcm", "changeswhenlowercased", "cwl", "changeswhentitlecased",
    "cwt", "changeswhenuppercased", "cwu", "dash", "defaultignorablecodepoint", "di",
    "deprecated", "dep", "diacritic", "dia", "emoji", "emojicomponent", "ecomp", "emojimodifier",
    "emod", "emojimodifierbase", "ebase", "emojipresentation", "epres", "extendedpictographic",
    "extpict", "extender", "ext", "graphemebase", "grbase", "graphemeextend", "grext",
    "graphemelink", "grlink", "hexdigit", "hex", "hyphen", "idsbinaryoperator", "idsb",
    "idstrinaryoperator", "idst", "idsunaryoperator", "idsu", "idcompatmathcontinue",
    "idcompatmathstart", "idcontinue", "idc", "idstart", "ids", "ideographic", "ideo",
    "joincontrol", "joinc", "logicalorderexception", "loe", "lowercase", "lower", "math",
    "modifiercombiningmark", "mcm", "noncharactercodepoint", "nchar", "otheralphabetic", "oalpha",
    "otherdefaultignorablecodepoint", "odi", "othergraphemeextend", "ogrext", "otheridcontinue",
    "oidc", "otheridstart", "oids", "otherlowercase", "olower", "othermath", "omath",
    "otheruppercase", "oupper", "patternsyntax", "patsyn", "patternwhitespace", "patws",
    "prependedconcatenationmark", "pcm", "quotationmark", "qmark", "radical", "regionalindicator",
    "ri", "sentenceterminal", "sterm", "softdotted", "sd", "terminalpunctuation", "term",
    "unifiedideograph", "uideo", "uppercase", "upper", "variationselector", "vs", "whitespace",
    "wspace", "space", "xidcontinue", "xidc", "xidstart", "xids"]

/-- The ways in which characters join or break user-perceived characters. -/
def graphemeBreaks : List String :=
  ["cr", "lf", "control", "cn", "extend", "ex", "prepend", "pp", "spacingmark", "sm",
    "regionalindicator", "ri", "l", "v", "t", "lv", "lvt", "zwj"]

/-- The ways in which characters join or break words. -/
def wordBreaks : List String :=
  ["cr", "lf", "newline", "nl", "extend", "zwj", "format", "fo", "katakana", "ka",
    "hebrewletter", "hl", "aletter", "le", "singlequote", "sq", "doublequote", "dq", "midnumlet",
    "mb", "midletter", "ml", "midnum", "mn", "numeric", "nu", "extendnumlet", "ex",
    "regionalindicator", "ri", "wsegspace"]

/-- The ways in which characters join or break sentences. -/
def sentenceBreaks : List String :=
  ["cr", "lf", "extend", "ex", "sep", "se", "format", "fo", "sp", "lower", "lo", "upper", "up",
    "oletter", "le", "numeric", "nu", "aterm", "at", "scontinue", "sc", "sterm", "st", "close",
    "cl"]

/-- The versions of the character set by which characters came in. -/
def ages : List String :=
  ["1.1", "v11", "2.0", "v20", "2.1", "v21", "3.0", "v30", "3.1", "v31", "3.2", "v32", "4.0",
    "v40", "4.1", "v41", "5.0", "v50", "5.1", "v51", "5.2", "v52", "6.0", "v60", "6.1", "v61",
    "6.2", "v62", "6.3", "v63", "7.0", "v70", "8.0", "v80", "9.0", "v90", "10.0", "v100", "11.0",
    "v110", "12.0", "v120", "12.1", "v121", "13.0", "v130", "14.0", "v140", "15.0", "v150",
    "15.1", "v151", "16.0", "v160"]

/-- The properties that have values, each by its names, with the names of the values. -/
def valueProperties : List (List String × List String) :=
  [(["gc", "generalcategory"], generalCategories),
    (["sc", "script", "scx", "scriptextensions"], scripts),
    (["gcb", "graphemeclusterbreak"], graphemeBreaks),
    (["wb", "wordbreak"], wordBreaks),
    (["sb", "sentencebreak"], sentenceBreaks),
    (["age"], ages)]

/-- A name without what does not count. Characters outside ASCII do not count either. -/
def normalize (name : List Char) : String :=
  let (isMarked, body) :=
    match name with
    | i :: s :: rest => if i.toLower = 'i' && s.toLower = 's' then (true, rest) else (false, name)
    | _ => (false, name)
  let kept := (body.filter fun c => c.toNat < 128 && !(c == ' ' || c == '_' || c == '-')).map
    Char.toLower
  if isMarked && kept == ['c'] then "isc" else String.ofList kept

/-- Whether a single name stands for a property or one of its values. -/
def isKnown (name : List Char) : Bool :=
  let name := normalize name
  generalCategories.contains name || scripts.contains name || binaryProperties.contains name

/-- Whether a property has a value. -/
def isKnownValue (property value : List Char) : Bool :=
  valueProperties.any fun (names, values) =>
    names.contains (normalize property) && values.contains (normalize value)

end Blocklist.Regex.Property
