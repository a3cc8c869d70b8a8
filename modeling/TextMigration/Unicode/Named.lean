import TextMigration.Unicode.Age
import TextMigration.Unicode.Break

/-!
Classes of characters by name: properties, general categories, scripts and the other properties that have
values. Names are compared without regard to case, spaces, underscores, hyphens and a leading "is".
-/

namespace TextMigration.Unicode

open Ranges (unionAll)

inductive NameError where
  | unknownProperty
  | unknownValue
deriving DecidableEq, Repr

def looseName (name : List Char) : String :=
  let lowered := name.map Char.toLower
  let (body, led) : List Char × Bool :=
    match lowered with
    | 'i' :: 's' :: rest => (rest, true)
    | other => (other, false)
  let kept := body.filter fun c => c != ' ' && c != '_' && c != '-' && c.toNat < 128
  if led && kept == ['c'] then "isc" else String.ofList kept

def categories : NameTable := [
  (["any"], everything),
  (["assigned"], assigned),
  (["ascii"], ascii),
  (["l", "letter"], letters),
  (["lc", "casedletter"], casedLetters),
  (["lu", "uppercaseletter"], upperLetter),
  (["ll", "lowercaseletter"], lowerLetter),
  (["lt", "titlecaseletter"], titleLetter),
  (["lm", "modifierletter"], modifierLetter),
  (["lo", "otherletter"], otherLetter),
  (["m", "mark", "combiningmark"], marks),
  (["mn", "nonspacingmark"], nonspacingMark),
  (["mc", "spacingmark"], spacingMark),
  (["me", "enclosingmark"], enclosingMark),
  (["n", "number"], numbers),
  (["nd", "decimalnumber", "digit"], decimalDigit),
  (["nl", "letternumber"], letterNumber),
  (["no", "othernumber"], otherNumber),
  (["p", "punctuation", "punct"], punctuation),
  (["pc", "connectorpunctuation"], connector),
  (["pd", "dashpunctuation"], dash),
  (["ps", "openpunctuation"], opening),
  (["pe", "closepunctuation"], closing),
  (["pi", "initialpunctuation"], initialQuote),
  (["pf", "finalpunctuation"], finalQuote),
  (["po", "otherpunctuation"], otherPunctuation),
  (["s", "symbol"], symbols),
  (["sm", "mathsymbol"], mathSymbol),
  (["sc", "currencysymbol"], currencySymbol),
  (["sk", "modifiersymbol"], modifierSymbol),
  (["so", "othersymbol"], otherSymbol),
  (["z", "separator"], separators),
  (["zs", "spaceseparator"], spaceSeparator),
  (["zl", "lineseparator"], lineSeparator),
  (["zp", "paragraphseparator"], paragraphSeparator),
  (["c", "other"], otherCategories),
  (["cc", "control", "cntrl"], control),
  (["cf", "format"], format),
  (["co", "privateuse"], privateUse),
  (["cn", "unassigned"], unassigned)]

def properties : NameTable := [
  (["ahex", "asciihexdigit"], [(0x30, 0x39), (0x41, 0x46), (0x61, 0x66)]),
  (["alpha", "alphabetic"], alphabetic),
  (["bidic", "bidicontrol"], bidiControl),
  (["bidim", "bidimirrored"], bidiMirrored),
  (["cased"], cased),
  (["ci", "caseignorable"], caseIgnorable),
  (["cwcf", "changeswhencasefolded"], changesFolded),
  (["cwcm", "changeswhencasemapped"], changesMapped),
  (["cwl", "changeswhenlowercased"], changesLowered),
  (["cwt", "changeswhentitlecased"], changesTitled),
  (["cwu", "changeswhenuppercased"], changesUppered),
  (["dash"], dashes),
  (["dep", "deprecated"], deprecated),
  (["di", "defaultignorablecodepoint"], ignorable),
  (["dia", "diacritic"], diacritic),
  (["ebase", "emojimodifierbase"], emojiModifierBase),
  (["ecomp", "emojicomponent"], emojiComponent),
  (["emod", "emojimodifier"], emojiModifier),
  (["emoji"], emoji),
  (["epres", "emojipresentation"], emojiPresentation),
  (["ext", "extender"], extender),
  (["extpict", "extendedpictographic"], extendedPictographic),
  (["grbase", "graphemebase"], graphemeBase),
  (["grext", "graphemeextend"], graphemeExtend),
  (["grlink", "graphemelink"], graphemeLink),
  (["hex", "hexdigit"], hexDigit),
  (["hyphen"], hyphen),
  (["idc", "idcontinue"], identifierContinue),
  (["idcompatmathcontinue"], mathStart.union mathContinue),
  (["idcompatmathstart"], mathStart),
  (["ideo", "ideographic"], ideographic),
  (["ids", "idstart"], identifierStart),
  (["idsb", "idsbinaryoperator"], describesTwo),
  (["idst", "idstrinaryoperator"], describesThree),
  (["idsu", "idsunaryoperator"], describesOne),
  (["joinc", "joincontrol"], joinControl),
  (["loe", "logicalorderexception"], logicalOrderException),
  (["lower", "lowercase"], lowercase),
  (["math"], math),
  (["mcm", "modifiercombiningmark"], modifierCombiningMark),
  (["nchar", "noncharactercodepoint"], noncharacter),
  (["oalpha", "otheralphabetic"], otherAlphabetic),
  (["odi", "otherdefaultignorablecodepoint"], otherIgnorable),
  (["ogrext", "othergraphemeextend"], otherGraphemeExtend),
  (["oidc", "otheridcontinue"], otherIdentifierContinue),
  (["oids", "otheridstart"], otherIdentifierStart),
  (["olower", "otherlowercase"], otherLower),
  (["omath", "othermath"], otherMath),
  (["oupper", "otheruppercase"], otherUpper),
  (["patsyn", "patternsyntax"], patternSyntax),
  (["patws", "patternwhitespace"], patternBlank),
  (["pcm", "prependedconcatenationmark"], prepended),
  (["qmark", "quotationmark"], quotationMark),
  (["radical"], radical),
  (["ri", "regionalindicator"], regionalIndicator),
  (["sd", "softdotted"], softDotted),
  (["sterm", "sentenceterminal"], sentenceTerminal),
  (["term", "terminalpunctuation"], terminalPunctuation),
  (["uideo", "unifiedideograph"], unifiedIdeograph),
  (["upper", "uppercase"], uppercase),
  (["vs", "variationselector"], variationSelector),
  (["wspace", "whitespace", "space"], blank),
  (["xidc", "xidcontinue"], stableContinue),
  (["xids", "xidstart"], stableStart)]

def categoryNames : List String := ["gc", "generalcategory"]

def scriptNames : List String := ["sc", "script"]

def usedWithNames : List String := ["scx", "scriptextensions"]

def ageNames : List String := ["age"]

def graphemeNames : List String := ["gcb", "graphemeclusterbreak"]

def wordNames : List String := ["wb", "wordbreak"]

def sentenceNames : List String := ["sb", "sentencebreak"]

def otherNames : List String := [
  "bc", "bidiclass", "bidimirroringglyph", "bidipairedbracket", "bidipairedbrackettype", "blk", "block",
  "bmg", "bpb", "bpt", "canonicalcombiningclass", "casefolding", "ccc", "ce", "cf",
  "changeswhennfkccasefolded", "cjkaccountingnumeric", "cjkcompatibilityvariant", "cjkiicore",
  "cjkirggsource", "cjkirghsource", "cjkirgjsource", "cjkirgkpsource", "cjkirgksource", "cjkirgmsource",
  "cjkirgssource", "cjkirgtsource", "cjkirguksource", "cjkirgusource", "cjkirgvsource",
  "cjkothernumeric", "cjkprimarynumeric", "cjkrsunicode", "compex", "compositionexclusion", "cwkcf",
  "decompositionmapping", "decompositiontype", "dm", "dt", "ea", "eastasianwidth",
  "equideo", "equivalentunifiedideograph", "expandsonnfc", "expandsonnfd", "expandsonnfkc",
  "expandsonnfkd", "fcnfkc", "fcnfkcclosure", "fullcompositionexclusion", "hangulsyllabletype", "hst",
  "incb", "indicconjunctbreak", "indicpositionalcategory", "indicsyllabiccategory", "inpc", "insc",
  "isc", "isocomment", "jamoshortname", "jg", "joininggroup", "joiningtype", "jsn", "jt",
  "kaccountingnumeric", "kcompatibilityvariant", "kiicore", "kirggsource", "kirghsource",
  "kirgjsource", "kirgkpsource", "kirgksource", "kirgmsource", "kirgssource", "kirgtsource",
  "kirguksource", "kirgusource", "kirgvsource", "kothernumeric", "kprimarynumeric", "krsunicode",
  "lb", "lc", "linebreak", "lowercasemapping", "na", "na1", "name", "namealias", "nfcqc",
  "nfcquickcheck", "nfdqc", "nfdquickcheck", "nfkccasefold", "nfkccf", "nfkcqc", "nfkcquickcheck",
  "nfkcscf", "nfkcsimplecasefold", "nfkdqc", "nfkdquickcheck", "nt", "numerictype", "numericvalue",
  "nv", "scf", "sfc", "simplecasefolding", "simplelowercasemapping", "simpletitlecasemapping",
  "simpleuppercasemapping", "slc", "stc", "suc", "tc", "titlecasemapping", "uc", "unicode1name",
  "unicoderadicalstroke", "uppercasemapping", "urs", "verticalorientation", "vo", "xonfc", "xonfd",
  "xonfkc", "xonfkd"]

def isProperty (key : String) : Bool :=
  (properties.find? key).isSome ||
    [categoryNames, scriptNames, usedWithNames, ageNames, graphemeNames, wordNames, sentenceNames,
      otherNames].any fun names => names.contains key

def upToAge? (key : String) : Option Ranges := do
  let index ← List.findIdx? (fun entry : List String × Ranges => entry.1.contains key) ages
  return unionAll ((ages.take (index + 1)).map Prod.snd)

/-- Scripts that have a name and no class: what is in no script yet, and two scripts in one. -/
def namedOnlyScripts : List String := ["zzzz", "unknown", "hrkt", "katakanaorhiragana"]

/-- Categories that have a name and no class, because surrogates are no characters. -/
def namedOnlyCategories : List String := ["cs", "surrogate"]

def orNoValue (found : Option Ranges) : Except NameError Ranges :=
  match found with
  | some set => .ok set
  | none => .error .unknownValue

/-- The class that a lone name stands for. The names cf, sc and lc are categories although they also
abbreviate properties. -/
def classNamed (name : List Char) : Except NameError Ranges :=
  let key := looseName name
  let isTaken := isProperty key && not (["cf", "sc", "lc"].contains key)
  match properties.find? key with
  | some found => .ok found
  | none =>
    if isTaken then .error .unknownProperty
    else
      match (categories.find? key).orElse fun _ => scripts.find? key with
      | some found => .ok found
      | none =>
        if (namedOnlyCategories ++ namedOnlyScripts).contains key then .error .unknownValue
        else .error .unknownProperty

def classValued (property value : List Char) : Except NameError Ranges :=
  let key := looseName property
  let value := looseName value
  if categoryNames.contains key then orNoValue (categories.find? value)
  else if scriptNames.contains key then orNoValue (scripts.find? value)
  else if usedWithNames.contains key then orNoValue (usedWith? value)
  else if ageNames.contains key then orNoValue (upToAge? value)
  else if graphemeNames.contains key then orNoValue (Break.graphemes.find? value)
  else if wordNames.contains key then orNoValue (Break.words.find? value)
  else if sentenceNames.contains key then orNoValue (Break.sentences.find? value)
  else if isProperty key then .error .unknownValue
  else .error .unknownProperty

end TextMigration.Unicode
