import RecordQuery.Pattern.Property.Binary

/-!
# Classes of text segmentation

The Unicode standard tells the graphemes, words and sentences of a text apart by three properties.
Their values are put together here from categories and other properties, as the standard does.
-/

namespace RecordQuery.Pattern

open Text

/-- The class of the characters with the given codes. -/
def codesClass (codes : List Nat) : CharClass :=
  .table (codes.map fun code => (code, code))

/-! ## Graphemes -/

/-- Characters that belong to the grapheme before them. -/
def clusterExtendClass : CharClass :=
  .union (.table graphemeExtendRanges) (.table emojiModifierRanges)

/-- Characters that belong to the grapheme after them: signs that enclose a number, and consonants
that are written before a cluster. -/
def clusterPrependClass : CharClass :=
  .unions [.table prependedConcatenationMarkRanges, .range 0xd4e 0xd4e, .range 0x111c2 0x111c3,
    .range 0x113d1 0x113d1, .range 0x1193f 0x1193f, .range 0x11941 0x11941,
    .range 0x11a3a 0x11a3a, .range 0x11a84 0x11a89, .range 0x11d46 0x11d46,
    .range 0x11f02 0x11f02]

def clusterControlClass : CharClass :=
  .difference
    (.unions [.table lineSeparatorRanges, .table paragraphSeparatorRanges, .table controlRanges,
      .table formatRanges, .intersection unassignedClass defaultIgnorableClass])
    (.unions [.single '\r', .single '\n', .table joinControlRanges, clusterPrependClass,
      clusterExtendClass])

/-- Spacing marks of a cluster. Some marks of Burmese, Shan, Khamti and Ahom stand alone. -/
def clusterSpacingClass : CharClass :=
  .union (.range 0xe33 0xe33) <| .union (.range 0xeb3 0xeb3) <|
    .difference (.table spacingMarkRanges)
      (.unions [clusterExtendClass, clusterPrependClass, .table [(0x102b, 0x102c),
        (0x1038, 0x1038), (0x1062, 0x1064), (0x1067, 0x106d), (0x1083, 0x1083),
        (0x1087, 0x108c), (0x108f, 0x108f), (0x109a, 0x109c), (0x1a61, 0x1a61),
        (0x1a63, 0x1a64), (0xaa7b, 0xaa7b), (0xaa7d, 0xaa7d), (0x11720, 0x11721)]])

/-- Hangul syllables without a final consonant, every twenty-eighth one. -/
def openSyllableClass : CharClass :=
  .table ((List.range 399).map fun n => (0xac00 + 28 * n, 0xac00 + 28 * n))

/-- The values of Grapheme_Cluster_Break. -/
def clusterBreaks : PropertyTable := [
  (["cr"], .single '\r'),
  (["lf"], .single '\n'),
  (["cn", "control"], clusterControlClass),
  (["ex", "extend"], clusterExtendClass),
  (["l"], .union (.range 0x1100 0x115f) (.range 0xa960 0xa97c)),
  (["lv"], openSyllableClass),
  (["lvt"], .difference (.range 0xac00 0xd7a3) openSyllableClass),
  (["pp", "prepend"], clusterPrependClass),
  (["ri", "regionalindicator"], .table regionalIndicatorRanges),
  (["sm", "spacingmark"], clusterSpacingClass),
  (["t"], .union (.range 0x11a8 0x11ff) (.range 0xd7cb 0xd7fb)),
  (["v"], .unions [.range 0x1160 0x11a7, .range 0xd7b0 0xd7c6, .range 0x16d63 0x16d63,
    .range 0x16d67 0x16d6a]),
  (["zwj"], .single '\u200d')]

/-! ## Words -/

/-- Scripts that write words without spaces and need a dictionary to tell them apart. -/
def complexContextClass : CharClass :=
  .table [(0xe01, 0xe3a), (0xe40, 0xe4e), (0xe81, 0xe82), (0xe84, 0xe84), (0xe86, 0xe8a),
    (0xe8c, 0xea3), (0xea5, 0xea5), (0xea7, 0xebd), (0xec0, 0xec4), (0xec6, 0xec6),
    (0xec8, 0xece), (0xedc, 0xedf), (0x1000, 0x103f), (0x1050, 0x108f), (0x109a, 0x109f),
    (0x1780, 0x17d3), (0x17d7, 0x17d7), (0x17dc, 0x17dd), (0x1950, 0x196d), (0x1970, 0x1974),
    (0x1980, 0x19ab), (0x19b0, 0x19c9), (0x19da, 0x19da), (0x19de, 0x19df), (0x1a20, 0x1a5e),
    (0x1a60, 0x1a7c), (0x1aa0, 0x1aad), (0xa9e0, 0xa9ef), (0xa9fa, 0xa9fe), (0xaa60, 0xaac2),
    (0xaadb, 0xaadf), (0x11700, 0x1171a), (0x1171d, 0x1172b), (0x1173a, 0x1173b),
    (0x1173f, 0x11746)]

/-- Digits, the signs that enclose them and the Arabic decimal mark. -/
def numericClass : CharClass :=
  .unions [.table decimalNumberRanges, .range 0x66b 0x66b,
    .difference (.table prependedConcatenationMarkRanges) (.range 0x70f 0x70f)]

def wordExtendClass : CharClass :=
  .difference (.unions [.table graphemeExtendRanges, .table spacingMarkRanges,
    .table emojiModifierRanges]) (.single '\u200d')

def katakanaClass : CharClass :=
  .unions [scriptClass "kana", .range 0x3031 0x3035, .range 0x309b 0x309c, .range 0x30a0 0x30a0,
    .range 0x30fc 0x30fc, .range 0xff70 0xff70]

def hebrewLetterClass : CharClass :=
  .intersection (scriptClass "hebr") (.table otherLetterRanges)

/-- Letters of the scripts that put spaces between words. -/
def wordLetterClass : CharClass :=
  .difference
    (.union (.table alphabeticRanges) (.table [(0x2c2, 0x2c5), (0x2d2, 0x2d7), (0x2de, 0x2df),
      (0x2e5, 0x2eb), (0x2ed, 0x2ed), (0x2ef, 0x2ff), (0x55a, 0x55c), (0x55e, 0x55e),
      (0x58a, 0x58a), (0x5f3, 0x5f3), (0x70f, 0x70f), (0xa708, 0xa716), (0xa720, 0xa721),
      (0xa789, 0xa78a), (0xab5b, 0xab5b)]))
    (.unions [.table ideographicRanges, katakanaClass, complexContextClass, scriptClass "hira",
      wordExtendClass, hebrewLetterClass])

def wordFormatClass : CharClass :=
  .difference (.table formatRanges)
    (.unions [.range 0x200b 0x200d, clusterPrependClass, wordExtendClass])

/-- The values of Word_Break. -/
def wordBreaks : PropertyTable := [
  (["cr"], .single '\r'),
  (["dq", "doublequote"], .single '"'),
  (["ex", "extendnumlet"], .union (.table connectorPunctuationRanges) (.range 0x202f 0x202f)),
  (["extend"], wordExtendClass),
  (["fo", "format"], wordFormatClass),
  (["hl", "hebrewletter"], hebrewLetterClass),
  (["ka", "katakana"], katakanaClass),
  (["le", "aletter"], wordLetterClass),
  (["lf"], .single '\n'),
  (["mb", "midnumlet"], codesClass [
    0x2e, 0x2018, 0x2019, 0x2024, 0xfe52, 0xff07, 0xff0e]),
  (["ml", "midletter"], codesClass [
    0x3a, 0xb7, 0x387, 0x55f, 0x5f4, 0x2027, 0xfe13, 0xfe55, 0xff1a]),
  (["mn", "midnum"], codesClass [
    0x2c, 0x3b, 0x37e, 0x589, 0x60c, 0x60d, 0x66c, 0x7f8, 0x2044, 0xfe10, 0xfe14, 0xfe50,
    0xfe54, 0xff0c, 0xff1b]),
  (["nl", "newline"], .unions [.range 11 12, .range 0x85 0x85, .range 0x2028 0x2029]),
  (["nu", "numeric"], numericClass),
  (["ri", "regionalindicator"], .table regionalIndicatorRanges),
  (["sq", "singlequote"], .range 0x27 0x27),
  (["wsegspace"], .unions [.single ' ', .range 0x1680 0x1680, .range 0x2000 0x2006,
    .range 0x2008 0x200a, .range 0x205f 0x205f, .range 0x3000 0x3000]),
  (["zwj"], .single '\u200d')]

/-! ## Sentences -/

def sentenceExtendClass : CharClass :=
  .unions [.table graphemeExtendRanges, .table spacingMarkRanges, .single '\u200d']

def lineEndClass : CharClass :=
  .union (.range 0x85 0x85) (.range 0x2028 0x2029)

/-- Lower-case characters; the letters of the Georgian script count as without case. -/
def sentenceLowerClass : CharClass :=
  .difference (.table lowercaseRanges)
    (.unions [.table graphemeExtendRanges, .range 0x10d0 0x10fa, .range 0x10fd 0x10ff])

def sentenceUpperClass : CharClass :=
  .difference (.union (.table titlecaseLetterRanges) (.table uppercaseRanges))
    (.union (.range 0x1c90 0x1cba) (.range 0x1cbd 0x1cbf))

/-- Full stops, which need not end a sentence. -/
def fullStopClass : CharClass :=
  codesClass [0x2e, 0x2024, 0xfe52, 0xff0e]

def sentenceCloseClass : CharClass :=
  .unions [.table openPunctuationRanges, .table closePunctuationRanges,
    .table initialPunctuationRanges, .table finalPunctuationRanges, .single '"', .range 0x27 0x27,
    .range 0x275b 0x2760, .range 0x2e00 0x2e01, .range 0x2e06 0x2e08, .range 0x2e0b 0x2e0b,
    .range 0x1f676 0x1f678]

/-- The values of Sentence_Break. -/
def sentenceBreaks : PropertyTable := [
  (["at", "aterm"], fullStopClass),
  (["cl", "close"], sentenceCloseClass),
  (["cr"], .single '\r'),
  (["ex", "extend"], sentenceExtendClass),
  (["fo", "format"], .difference (.table formatRanges)
    (.unions [.table joinControlRanges, sentenceExtendClass, numericClass])),
  (["le", "oletter"], .difference (.union (.table alphabeticRanges) (.range 0x5f3 0x5f3))
    (.unions [sentenceLowerClass, sentenceUpperClass, sentenceExtendClass])),
  (["lf"], .single '\n'),
  (["lo", "lower"], sentenceLowerClass),
  (["nu", "numeric"], .union numericClass (.range 0x66c 0x66c)),
  (["sc", "scontinue"], codesClass [
    0x2c, 0x2d, 0x3a, 0x3b, 0x37e, 0x55d, 0x60c, 0x60d, 0x7f8, 0x1802, 0x1808, 0x2013, 0x2014,
    0x3001, 0xfe10, 0xfe11, 0xfe13, 0xfe14, 0xfe31, 0xfe32, 0xfe50, 0xfe51, 0xfe54, 0xfe55,
    0xfe58, 0xfe63, 0xff0c, 0xff0d, 0xff1a, 0xff1b, 0xff64]),
  (["se", "sep"], lineEndClass),
  (["sp"], .difference (.table spaceRanges)
    (.unions [lineEndClass, .single '\r', .single '\n'])),
  (["st", "sterm"], .difference (.table sentenceTerminalRanges) fullStopClass),
  (["up", "upper"], sentenceUpperClass)]

end RecordQuery.Pattern
