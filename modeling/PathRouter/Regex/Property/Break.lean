import PathRouter.Regex.Property.Binary
import PathRouter.Regex.Property.Category
import PathRouter.Regex.Property.Script
/-!
# Properties that divide a text

Three properties say where a text may be divided into what is drawn as one character, into words and into sentences.
Each has a fixed list of values, by short and by long name.
-/
namespace PathRouter.CharSet

/-- One character by its number. -/
def ofCode (n : Nat) : CharSet := ofRanges [(n, n)]

/-! ## Drawn characters -/

/-- Marks that are drawn together with the character after them. -/
def prepended : CharSet :=
  unions [ofRanges spanningMarks, ofRanges [
    (3406, 3406), (70082, 70083), (70609, 70609), (71999, 71999), (72001, 72001), (72250, 72250), (72324, 72329),
    (73030, 73030), (73474, 73474)]]

/-- Marks with a width of their own that are not drawn together with the character before them. -/
def separateMarks : CharSet :=
  ofRanges [(4139, 4140), (4152, 4152), (4194, 4196), (4199, 4205), (4227, 4227), (4231, 4236), (4239, 4239),
    (4250, 4252), (6753, 6753), (6755, 6756), (43643, 43643), (43645, 43645), (71456, 71457)]

/-- Syllables in the block of composed ones: those without a final consonant stand at every 28th place. -/
def openSyllables : CharSet :=
  ofRanges ((List.range 399).map (fun i => (44032 + 28 * i, 44032 + 28 * i)))

def graphemeBreaks : List (List String × CharSet) := [
  (["cn", "control"],
    diff (.union (ofCategories [.zl, .zp, .cc, .cf]) (.inter (ofCategories [.cn]) (ofRanges defaultIgnorables)))
      (unions [single '\r', single '\n', single '\u200d', extenders, prepended])),
  (["cr"], single '\r'), (["lf"], single '\n'), (["zwj"], single '\u200d'),
  (["ex", "extend"], .union extenders (ofRanges emojiModifiers)),
  (["pp", "prepend"], prepended), (["ri", "regionalindicator"], .range '🇦' '🇿'),
  (["sm", "spacingmark"],
    .union (diff (ofCategories [.mc]) (.union extenders separateMarks)) (.union (ofCode 3635) (ofCode 3763))),
  (["l"], ofRanges [(4352, 4447), (43360, 43388)]),
  (["v"], ofRanges [(4448, 4519), (55216, 55238), (93539, 93539), (93543, 93546)]),
  (["t"], ofRanges [(4520, 4607), (55243, 55291)]),
  (["lv"], openSyllables), (["lvt"], diff (ofRanges [(44032, 55203)]) openSyllables)]

/-! ## Words -/

/-- Characters that continue the one before them, with marks of every kind. -/
def attached : CharSet := .union extenders (ofCategories [.mc])

def katakana : CharSet :=
  .union ((script? "kana").getD .none)
    (ofRanges [(12337, 12341), (12443, 12444), (12448, 12448), (12540, 12540), (65392, 65392)])

def hebrewLetters : CharSet := .inter (ofCategories [.lo]) ((script? "hebr").getD .none)

/-- Scripts that are written without spaces between words. -/
def unspaced : CharSet :=
  unions (["thai", "laoo", "mymr", "khmr", "tale", "talu", "lana", "tavt", "ahom", "hira"].filterMap script?)

def wordLetters : CharSet :=
  .union (diff alphabetic (unions [ofRanges ideographs, katakana, hebrewLetters, attached, unspaced]))
    (ofRanges [(706, 709), (722, 727), (734, 735), (741, 747), (749, 749), (751, 767), (1370, 1372), (1374, 1374),
      (1418, 1418), (1523, 1523), (42760, 42774), (42784, 42785), (42889, 42890), (43867, 43867)])

/-- Signs that span a number, and so count as part of it. -/
def numberSigns : CharSet :=
  diff (ofRanges spanningMarks) (ofCode 1807)

/-- Digits, the signs that span them and the mark before decimal places. -/
def numerals : CharSet := unions [decimal, numberSigns, ofCode 1643]

/-- Characters that only control how others are drawn, and are neither joiners nor signs of a number. -/
def formats : CharSet :=
  diff (ofCategories [.cf]) (.union numberSigns (ofRanges [(8203, 8205), (917536, 917631)]))

def wordBreaks : List (List String × CharSet) := [
  (["cr"], single '\r'), (["lf"], single '\n'), (["zwj"], single '\u200d'),
  (["nl", "newline"], ofRanges [(11, 12), (133, 133), (8232, 8233)]),
  (["extend"], .union attached (ofRanges emojiModifiers)), (["ri", "regionalindicator"], .range '🇦' '🇿'),
  (["fo", "format"], formats), (["ka", "katakana"], katakana), (["hl", "hebrewletter"], hebrewLetters),
  (["le", "aletter"], wordLetters), (["sq", "singlequote"], ofCode 39), (["dq", "doublequote"], ofCode 34),
  (["mb", "midnumlet"], ofRanges [(46, 46), (8216, 8217), (8228, 8228), (65106, 65106), (65287, 65287),
    (65294, 65294)]),
  (["ml", "midletter"], ofRanges [(58, 58), (183, 183), (903, 903), (1375, 1375), (1524, 1524), (8231, 8231),
    (65043, 65043), (65109, 65109), (65306, 65306)]),
  (["mn", "midnum"], ofRanges [(44, 44), (59, 59), (894, 894), (1417, 1417), (1548, 1549), (1644, 1644), (2040, 2040),
    (8260, 8260), (65040, 65040), (65044, 65044), (65104, 65104), (65108, 65108), (65292, 65292), (65307, 65307)]),
  (["nu", "numeric"], numerals),
  (["ex", "extendnumlet"], .union (ofCategories [.pc]) (ofCode 8239)),
  (["wsegspace"], diff (ofCategories [.zs]) (ofRanges [(160, 160), (8199, 8199), (8239, 8239)]))]

/-! ## Sentences -/

def sentenceAttached : CharSet := .union attached (single '\u200d')

def sentenceLower : CharSet := diff lowercase (.union extenders (ofRanges [(4304, 4346), (4349, 4351)]))

def sentenceUpper : CharSet :=
  diff (.union uppercase (ofCategories [.lt])) (ofRanges [(7312, 7354), (7357, 7359)])

/-- Full stops, which also end what is no sentence. -/
def stops : CharSet := ofRanges [(46, 46), (8228, 8228), (65106, 65106), (65294, 65294)]

def sentenceBreaks : List (List String × CharSet) := [
  (["cr"], single '\r'), (["lf"], single '\n'), (["se", "sep"], ofRanges [(133, 133), (8232, 8233)]),
  (["sp"], diff blank (ofRanges [(10, 10), (13, 13), (133, 133), (8232, 8233)])),
  (["ex", "extend"], sentenceAttached), (["fo", "format"], .union formats (ofCode 8203)),
  (["lo", "lower"], sentenceLower), (["up", "upper"], sentenceUpper),
  (["le", "oletter"],
    .union (diff alphabetic (unions [sentenceLower, sentenceUpper, sentenceAttached])) (ofCode 1523)),
  (["nu", "numeric"], .union numerals (ofCode 1644)),
  (["at", "aterm"], stops), (["st", "sterm"], diff (ofRanges sentenceTerminals) stops),
  (["sc", "scontinue"], ofRanges [(44, 45), (58, 59), (894, 894), (1373, 1373), (1548, 1549), (2040, 2040),
    (6146, 6146), (6152, 6152), (8211, 8212), (12289, 12289), (65040, 65041), (65043, 65044), (65073, 65074),
    (65104, 65105), (65108, 65109), (65112, 65112), (65123, 65123), (65292, 65293), (65306, 65307), (65380, 65380)]),
  (["cl", "close"], .union (ofCategories [.ps, .pe, .pi, .pf]) (ofRanges [(34, 34), (39, 39), (10075, 10080),
    (11776, 11777), (11782, 11784), (11787, 11787), (128630, 128632)]))]

end PathRouter.CharSet
