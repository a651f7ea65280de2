import PathRouter.Regex.CharSet
import PathRouter.Regex.Property.Name
import PathRouter.Regex.Property.RangeTable
/-!
# Properties that a character has or has not

Most are unions of categories with a list of exceptions; the lists stand in `Regex.Property.RangeTable`.
-/
namespace PathRouter.CharSet

/-- Ranges from a table of the latest edition, less what came with it. -/
def earlierRanges (rs : List (Nat × Nat)) : CharSet :=
  .inter (ofRanges rs) assigned

/-! ## Letters and their case -/

def otherAlphabetic : CharSet := earlierRanges Text.otherAlphabetic

def alphabetic : CharSet :=
  .union (ofCategories [.lu, .ll, .lt, .lm, .lo, .nl]) otherAlphabetic

def otherLowercase : CharSet := earlierRanges Text.otherLowercase

def lowercase : CharSet := .union (ofCategories [.ll]) otherLowercase

def otherUppercase : CharSet := earlierRanges Text.otherUppercase

def uppercase : CharSet := .union (ofCategories [.lu]) otherUppercase

def cased : CharSet := unions [lowercase, uppercase, ofCategories [.lt]]

def caseIgnorable : CharSet :=
  .union (ofCategories [.mn, .me, .cf, .lm, .sk]) (earlierRanges Text.otherCaseIgnorable)

/-- The candidates whose image is another text, if neither came with the latest edition. -/
def changing (candidates : List Nat) (image : Char → List Char) : CharSet :=
  ofCodes (candidates.filter (fun n =>
    let c := Char.ofNat n
    image c != [c] && (c :: image c).all Text.isEarlier))

def lowerChanges : CharSet :=
  changing ('İ'.toNat :: Text.lowerRuns.flatMap Text.CaseRun.members) Text.lowerChar

def upperChanges : CharSet :=
  changing (Text.longUppers.map Prod.fst ++ Text.upperRuns.flatMap Text.CaseRun.members) Text.upperChar

/-- Characters that title case changes. -/
def titleChanges : CharSet :=
  .union (diff upperChanges (ofRanges upperOnly)) (ofRanges titleOnly)

/-- Characters that full case folding changes. -/
def foldChanges : CharSet :=
  .union (diff (changing (Text.foldRuns.flatMap Text.CaseRun.members) (fun c => [Text.foldChar c]))
    (ofRanges stableFolds)) (ofRanges longFolds)

/-! ## Words -/

/-- Characters of a word: alphabetic ones, marks, decimal digits, connectors such as `_`, and joiners. -/
def word : CharSet :=
  unions [alphabetic, ofCategories [.mn, .mc, .me, .nd, .pc], .range '\u200c' '\u200d']

/-! ## Units of text -/

def otherExtenders : CharSet := earlierRanges Text.otherExtenders

/-- Characters that are drawn together with the one before them. -/
def extenders : CharSet := .union (ofCategories [.mn, .me]) otherExtenders

/-- Characters that are drawn by themselves. -/
def bases : CharSet :=
  .compl (.union extenders (ofCategories [.cc, .cf, .cs, .co, .cn, .zl, .zp]))

/-! ## Identifiers -/

def starts : CharSet :=
  diff (.union (ofCategories [.lu, .ll, .lt, .lm, .lo, .nl]) (ofRanges otherStarts)) (ofRanges patternSigns)

def continues : CharSet :=
  diff (unions [starts, ofCategories [.mn, .mc, .nd, .pc], ofRanges otherContinues]) (ofRanges patternSigns)

/-! ## Names -/

def asciiHexDigit : CharSet := unions [.range '0' '9', .range 'A' 'F', .range 'a' 'f']

def hexDigit : CharSet := unions [asciiHexDigit, .range '０' '９', .range 'Ａ' 'Ｆ', .range 'ａ' 'ｆ']

/-- All properties of this kind by their names. -/
def binaryProperties : List (List String × CharSet) := [
  (["asciihexdigit", "ahex"], asciiHexDigit), (["hexdigit", "hex"], hexDigit),
  (["alphabetic", "alpha"], alphabetic), (["otheralphabetic", "oalpha"], otherAlphabetic),
  (["lowercase", "lower"], lowercase), (["otherlowercase", "olower"], otherLowercase),
  (["uppercase", "upper"], uppercase), (["otheruppercase", "oupper"], otherUppercase),
  (["cased"], cased), (["caseignorable", "ci"], caseIgnorable), (["softdotted", "sd"], ofRanges softDotted),
  (["changeswhenlowercased", "cwl"], lowerChanges), (["changeswhenuppercased", "cwu"], upperChanges),
  (["changeswhentitlecased", "cwt"], titleChanges), (["changeswhencasefolded", "cwcf"], foldChanges),
  (["changeswhencasemapped", "cwcm"], unions [lowerChanges, upperChanges, titleChanges]),
  (["whitespace", "wspace", "space"], blank),
  (["joincontrol", "joinc"], .range '\u200c' '\u200d'), (["bidicontrol", "bidic"], ofRanges bidiControls),
  (["defaultignorablecodepoint", "di"], ofRanges defaultIgnorables),
  (["otherdefaultignorablecodepoint", "odi"], ofRanges otherDefaultIgnorables),
  (["deprecated", "dep"], ofRanges deprecatedChars),
  (["noncharactercodepoint", "nchar"], ofRanges nonCharacters),
  (["variationselector", "vs"], ofRanges variationSelectors),
  (["dash"], .union (ofCategories [.pd]) (ofRanges mathDashes)), (["hyphen"], ofRanges hyphens),
  (["quotationmark", "qmark"], ofRanges quotationMarks),
  (["sentenceterminal", "sterm"], ofRanges sentenceTerminals),
  (["terminalpunctuation", "term"], ofRanges terminals),
  (["math"], .union (ofCategories [.sm]) (ofRanges CharSet.otherMath)), (["othermath", "omath"], ofRanges otherMath),
  (["diacritic", "dia"], ofRanges diacritics), (["extender", "ext"], ofRanges repeaters),
  (["graphemebase", "grbase"], bases), (["graphemeextend", "grext"], extenders),
  (["othergraphemeextend", "ogrext"], otherExtenders), (["graphemelink", "grlink"], ofRanges viramas),
  (["modifiercombiningmark", "mcm"], ofRanges modifierMarks),
  (["prependedconcatenationmark", "pcm"], ofRanges spanningMarks),
  (["logicalorderexception", "loe"], ofRanges leadingVowels),
  (["regionalindicator", "ri"], .range '🇦' '🇿'),
  (["emoji"], ofRanges emojis), (["emojicomponent", "ecomp"], ofRanges emojiComponents),
  (["emojimodifier", "emod"], ofRanges emojiModifiers), (["emojimodifierbase", "ebase"], ofRanges emojiBases),
  (["emojipresentation", "epres"], ofRanges emojiPresented),
  (["extendedpictographic", "extpict"], ofRanges pictographs),
  (["ideographic", "ideo"], ofRanges ideographs), (["unifiedideograph", "uideo"], ofRanges unifiedIdeographs),
  (["radical"], ofRanges radicals),
  (["idsbinaryoperator", "idsb"], unions [.range '⿰' '⿱', .range '⿴' '\u2ffd', single '\u31ef']),
  (["idstrinaryoperator", "idst"], .range '⿲' '⿳'), (["idsunaryoperator", "idsu"], .range '\u2ffe' '\u2fff'),
  (["idstart", "ids"], starts), (["idcontinue", "idc"], continues),
  (["xidstart", "xids"], diff starts (ofRanges unstableStarts)),
  (["xidcontinue", "xidc"], diff continues (ofRanges unstableContinues)),
  (["otheridstart", "oids"], ofRanges otherStarts), (["otheridcontinue", "oidc"], ofRanges otherContinues),
  (["idcompatmathstart"], ofRanges mathStarts),
  (["idcompatmathcontinue"], .union (ofRanges mathStarts) (ofRanges mathContinues)),
  (["patternsyntax", "patsyn"], ofRanges patternSigns), (["patternwhitespace", "patws"], ofRanges patternBlanks)]

end PathRouter.CharSet
