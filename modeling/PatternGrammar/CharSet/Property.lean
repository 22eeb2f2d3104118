import PatternGrammar.CharSet.Breaks
import PatternGrammar.Unicode.Ages
import PatternGrammar.Unicode.Scripts

/-!
# Sets asked for by property

A pattern names a set of characters by a general category, a script or a property with two values, or asks for the
characters with a given value of a property. Names are compared loosely.
-/

namespace PatternGrammar

namespace CharSet

/-- A name in the form in which names are compared: ASCII only, in small letters, without spaces, hyphens and
underscores, and without a leading `is`. -/
def looseName (name : List Char) : List Char :=
  let kept (cs : List Char) : List Char :=
    (cs.filter fun c => decide (c.toNat < 0x80) && !(c == ' ' || c == '_' || c == '-')).map Char.toLower
  match name with
  | i :: s :: rest =>
      if i.toLower == 'i' && s.toLower == 's' then
        -- `isc` is a name of its own
        let short := kept rest
        if short = ['c'] then ['i', 's', 'c'] else short
      else kept name
  | _ => kept name

def generalCategories : List (List String × CharSet) :=
  [(["any"], all), (["ascii"], ascii), (["assigned"], assigned),
   (["lu", "uppercaseletter"], bands Unicode.upperLetters),
   (["ll", "lowercaseletter"], bands Unicode.lowerLetters),
   (["lt", "titlecaseletter"], bands Unicode.titleLetters),
   (["lc", "casedletter"], casedLetters),
   (["lm", "modifierletter"], bands Unicode.modifierLetters),
   (["lo", "otherletter"], bands Unicode.otherLetters),
   (["l", "letter"], letters),
   (["mn", "nonspacingmark"], bands Unicode.nonspacingMarks),
   (["mc", "spacingmark"], bands Unicode.spacingMarks),
   (["me", "enclosingmark"], bands Unicode.enclosingMarks),
   (["m", "mark", "combiningmark"], marks),
   (["nd", "decimalnumber", "digit"], digits),
   (["nl", "letternumber"], bands Unicode.letterNumbers),
   (["no", "othernumber"], bands Unicode.otherNumbers),
   (["n", "number"], numbers),
   (["pc", "connectorpunctuation"], bands Unicode.connectors),
   (["pd", "dashpunctuation"], bands Unicode.dashes),
   (["ps", "openpunctuation"], bands Unicode.openBrackets),
   (["pe", "closepunctuation"], bands Unicode.closeBrackets),
   (["pi", "initialpunctuation"], bands Unicode.initialQuotes),
   (["pf", "finalpunctuation"], bands Unicode.finalQuotes),
   (["po", "otherpunctuation"], bands Unicode.otherPunctuation),
   (["p", "punctuation", "punct"], punctuation),
   (["sm", "mathsymbol"], bands Unicode.mathSymbols),
   (["sc", "currencysymbol"], bands Unicode.currencySymbols),
   (["sk", "modifiersymbol"], bands Unicode.modifierSymbols),
   (["so", "othersymbol"], bands Unicode.otherSymbols),
   (["s", "symbol"], symbols),
   (["zs", "spaceseparator"], bands Unicode.spaceSeparators),
   (["zl", "lineseparator"], bands Unicode.lineSeparators),
   (["zp", "paragraphseparator"], bands Unicode.paragraphSeparators),
   (["z", "separator"], separators),
   (["cc", "control", "cntrl"], bands Unicode.controls),
   (["cf", "format"], bands Unicode.formats),
   (["co", "privateuse"], bands Unicode.privateUse),
   (["cn", "unassigned"], compl assigned),
   (["c", "other"], compl (unions [letters, marks, numbers, punctuation, symbols, separators]))]

/-- The properties with two values by name. -/
def binaryProperties : List (List String × CharSet) :=
  [(["whitespace", "wspace", "space"], spaces),
   (["alphabetic", "alpha"], alphabetic),
   (["otheralphabetic", "oalpha"], union (bands Unicode.alphabeticMarks) (bands Unicode.circledLetters)),
   (["uppercase", "upper"], uppercase),
   (["otheruppercase", "oupper"], bands Unicode.otherUppercase),
   (["lowercase", "lower"], lowercase),
   (["otherlowercase", "olower"], bands Unicode.otherLowercase),
   (["cased"], cased),
   (["caseignorable", "ci"], caseIgnorable),
   (["changeswhenlowercased", "cwl"], lowerChanging),
   (["changeswhenuppercased", "cwu"], upperChanging),
   (["changeswhentitlecased", "cwt"], titleChanging),
   (["changeswhencasefolded", "cwcf"], foldChanging),
   (["changeswhencasemapped", "cwcm"], caseChanging),
   (["softdotted", "sd"], bands Unicode.softDotted),
   (["idstart", "ids"], identifierStarts),
   (["otheridstart", "oids"], bands Unicode.otherIdStarts),
   (["idcontinue", "idc"], identifierParts),
   (["otheridcontinue", "oidc"], bands Unicode.otherIdContinues),
   (["xidstart", "xids"], closedIdentifierStarts),
   (["xidcontinue", "xidc"], closedIdentifierParts),
   (["idcompatmathstart"], bands Unicode.mathIdStarts),
   (["idcompatmathcontinue"], union (bands Unicode.mathIdStarts) (bands Unicode.mathIdScripts)),
   (["patternsyntax", "patsyn"], bands Unicode.patternSyntax),
   (["patternwhitespace", "patws"], bands Unicode.patternSpaces),
   (["graphemebase", "grbase"], graphemeBases),
   (["graphemeextend", "grext"], graphemeExtending),
   (["othergraphemeextend", "ogrext"], bands Unicode.graphemeExtenders),
   (["graphemelink", "grlink"], bands Unicode.graphemeLinks),
   (["modifiercombiningmark", "mcm"], bands Unicode.modifierMarks),
   (["prependedconcatenationmark", "pcm"], bands Unicode.prependedMarks),
   (["logicalorderexception", "loe"], bands Unicode.logicalOrderExceptions),
   (["regionalindicator", "ri"], bands Unicode.regionalIndicators),
   (["joincontrol", "joinc"], bands Unicode.joiners),
   (["bidicontrol", "bidic"], bands Unicode.directionControls),
   (["bidimirrored", "bidim"], bands Unicode.mirrored),
   (["variationselector", "vs"], bands Unicode.variationSelectors),
   (["defaultignorablecodepoint", "di"], ignorable),
   (["otherdefaultignorablecodepoint", "odi"], bands Unicode.otherIgnorables),
   (["deprecated", "dep"], bands Unicode.deprecated),
   (["noncharactercodepoint", "nchar"], bands Unicode.noncharacters),
   (["math"], mathematical),
   (["othermath", "omath"], bands Unicode.otherMath),
   (["dash"], allDashes),
   (["hyphen"], bands Unicode.hyphens),
   (["quotationmark", "qmark"], bands Unicode.quotationMarks),
   (["terminalpunctuation", "term"], terminalPunctuation),
   (["sentenceterminal", "sterm"], bands Unicode.sentenceEnds),
   (["diacritic", "dia"], bands Unicode.diacritics),
   (["extender", "ext"], bands Unicode.extenders),
   (["hexdigit", "hex"], bands Unicode.hexDigitForms),
   (["asciihexdigit", "ahex"], asciiHexDigits),
   (["ideographic", "ideo"], bands Unicode.ideographs),
   (["unifiedideograph", "uideo"], bands Unicode.unifiedIdeographs),
   (["radical"], bands Unicode.radicals),
   (["idsunaryoperator", "idsu"], bands Unicode.unaryDescriptions),
   (["idsbinaryoperator", "idsb"], bands Unicode.binaryDescriptions),
   (["idstrinaryoperator", "idst"], bands Unicode.ternaryDescriptions),
   (["emoji"], emoji),
   (["emojipresentation", "epres"], bands Unicode.emojiPresentations),
   (["emojimodifier", "emod"], bands Unicode.emojiModifiers),
   (["emojimodifierbase", "ebase"], bands Unicode.emojiModifierBases),
   (["emojicomponent", "ecomp"], bands Unicode.emojiComponents),
   (["extendedpictographic", "extpict"], bands Unicode.pictographs)]

/-- The properties whose sets cannot be asked for, though their names are known. -/
def otherProperties : List String :=
  ["bc", "bidiclass", "bmg", "bidimirroringglyph", "bpb", "bidipairedbracket", "bpt", "bidipairedbrackettype",
   "blk", "block", "ccc", "canonicalcombiningclass", "ce", "compositionexclusion", "cf", "casefolding",
   "compex", "fullcompositionexclusion", "cwkcf", "changeswhennfkccasefolded", "dm", "decompositionmapping",
   "dt", "decompositiontype", "ea", "eastasianwidth", "equideo", "equivalentunifiedideograph", "fcnfkc",
   "fcnfkcclosure", "hst", "hangulsyllabletype", "incb", "indicconjunctbreak", "inpc",
   "indicpositionalcategory", "insc", "indicsyllabiccategory", "isc", "ocomment", "jg", "joininggroup",
   "jsn", "jamoshortname", "jt", "joiningtype", "lb", "linebreak", "lc", "lowercasemapping", "na", "name",
   "na1", "unicode1name", "namealias", "nfcqc", "nfcquickcheck", "nfdqc", "nfdquickcheck", "nfkccf",
   "nfkccasefold", "nfkcqc", "nfkcquickcheck", "nfkcscf", "nfkcsimplecasefold", "nfkdqc", "nfkdquickcheck",
   "nt", "numerictype", "nv", "numericvalue", "scf", "sfc", "simplecasefolding", "slc",
   "simplelowercasemapping", "stc", "simpletitlecasemapping", "suc", "simpleuppercasemapping", "tc",
   "titlecasemapping", "uc", "uppercasemapping", "vo", "verticalorientation", "xonfc", "expandsonnfc",
   "xonfd", "expandsonnfd", "xonfkc", "expandsonnfkc", "xonfkd", "expandsonnfkd", "kehcat", "kehdesc",
   "kehhg", "kehifao", "kehjsesh", "kehnomirror", "kehnorotate", "kaccountingnumeric",
   "cjkaccountingnumeric", "kcompatibilityvariant", "cjkcompatibilityvariant", "kiicore", "cjkiicore",
   "kirggsource", "cjkirggsource", "kirghsource", "cjkirghsource", "kirgjsource", "cjkirgjsource",
   "kirgkpsource", "cjkirgkpsource", "kirgksource", "cjkirgksource", "kirgmsource", "cjkirgmsource",
   "kirgssource", "cjkirgssource", "kirgtsource", "cjkirgtsource", "kirguksource", "cjkirguksource",
   "kirgusource", "cjkirgusource", "kirgvsource", "cjkirgvsource", "kothernumeric", "cjkothernumeric",
   "kprimarynumeric", "cjkprimarynumeric", "krsunicode", "cjkrsunicode", "unicoderadicalstroke", "urs"]

/-- Names of general categories and scripts that no character has: surrogates are not characters, and the scripts are
not used. -/
def emptyNames : List String :=
  ["cs", "surrogate", "zzzz", "unknown", "hrkt", "katakanaorhiragana"]

inductive PropertyError where
  | unknownProperty
  | unknownValue
  deriving DecidableEq, Repr

def named? (table : List (List String × CharSet)) (name : String) : Option CharSet :=
  (table.find? fun entry => entry.1.contains name).map (·.2)

/-! ## Properties with values -/

def generalCategory? (name : String) : Option CharSet :=
  named? generalCategories name

def script? (name : String) : Option CharSet :=
  (Unicode.scripts.find? fun s => s.names.contains name).map fun s => bands s.members

/-- The characters that are used in some scripts without being of any one of them. -/
def sharedCharacters : CharSet :=
  unions (Unicode.scripts.map fun s => bands s.shared)

/-- Whether a script with these names is one for the characters of several scripts. -/
def isCommon (names : List String) : Bool :=
  names.contains "common" || names.contains "inherited"

/-- The characters that are used in a script: its own and those that it shares with others. The scripts for the
characters of several scripts are left with those that no other script shares. -/
def scriptUse? (name : String) : Option CharSet :=
  (Unicode.scripts.find? fun s => s.names.contains name).map fun s =>
    if isCommon s.names then diff (bands s.members) sharedCharacters
    else union (bands s.members) (bands s.shared)

/-- The characters that a version of the Unicode character database has, from the first version on. -/
def age? (name : String) : Option CharSet :=
  (Unicode.editions.findIdx? fun e => e.names.contains name).map fun i =>
    unions ((Unicode.editions.take (i + 1)).map fun e => bands e.additions)

/-- The properties with more than two values, and how their values are looked up. -/
def valuedProperties : List (List String × (String → Option CharSet)) :=
  [(["gc", "generalcategory"], generalCategory?),
   (["sc", "script"], script?),
   (["scx", "scriptextensions"], scriptUse?),
   (["age"], age?),
   (["gcb", "graphemeclusterbreak"], named? graphemeClasses),
   (["wb", "wordbreak"], named? wordClasses),
   (["sb", "sentencebreak"], named? sentenceClasses)]

/-- Whether a name is that of a property, whatever its values are. -/
def isProperty (name : String) : Bool :=
  (named? binaryProperties name).isSome || valuedProperties.any (·.1.contains name) || otherProperties.contains name

/-! ## Looking up -/

/-- The names that are taken for a general category though they are short for another property as well. -/
def categoryFirst : List String :=
  ["cf", "sc", "lc"]

/-- The set a single name stands for: a property with two values, a general category or a script, in this order. The
name of a property with other values stands for no set. -/
def ofName (name : List Char) : Except PropertyError CharSet :=
  let loose := String.ofList (looseName name)
  -- the value of any other property has to be asked for with its name
  if isProperty loose && !categoryFirst.contains loose then
    match named? binaryProperties loose with
    | some s => .ok s
    | none => .error .unknownProperty
  else
    match (generalCategory? loose).or (script? loose) with
    | some s => .ok s
    | none => .error (if emptyNames.contains loose then .unknownValue else .unknownProperty)

def ofValue (property value : List Char) : Except PropertyError CharSet :=
  let name := String.ofList (looseName property)
  match valuedProperties.find? (·.1.contains name) with
  | some (_, look) =>
    match look (String.ofList (looseName value)) with
    | some s => .ok s
    | none => .error .unknownValue
  | none => .error (if isProperty name then .unknownValue else .unknownProperty)

end CharSet

end PatternGrammar
