import RecordQuery.Pattern.Property.Category
import RecordQuery.Pattern.Tables.Binary
import RecordQuery.Text.Tables.Case
import RecordQuery.Text.Tables.Print

/-!
# Yes-or-no properties

Many properties are defined by the Unicode standard through categories and other properties, and
are put together here in the same way.
-/

namespace RecordQuery.Pattern

open Text

/-! ## Changes of case -/

def changesWhenLowercasedClass : CharClass :=
  .union (.table (lowercaseRuns.flatMap CaseRun.sources)) (.single 'İ')

def changesWhenUppercasedClass : CharClass :=
  .union (.table (lowercaseRuns.flatMap CaseRun.targets)) (.table expandedUppercaseRanges)

def changesWhenTitlecasedClass : CharClass :=
  .union (.difference changesWhenUppercasedClass (.table ownTitlecaseRanges))
    (.table titlecasedCapitalRanges)

def changesWhenCasefoldedClass : CharClass :=
  .union (.difference changesWhenLowercasedClass (.table ownFoldRanges))
    (.table foldedLowercaseRanges)

def changesWhenCasemappedClass : CharClass :=
  .unions [changesWhenLowercasedClass, changesWhenUppercasedClass, changesWhenTitlecasedClass]

/-! ## Identifiers -/

/-- Characters that patterns keep for their own syntax. -/
def patternClass : CharClass :=
  .union (.table patternSyntaxRanges) (.table patternWhiteSpaceRanges)

def idStartClass : CharClass :=
  .difference (.unions [letterClass, .table letterNumberRanges, .table otherIdStartRanges])
    patternClass

def idContinueClass : CharClass :=
  .unions [idStartClass,
    .difference (.unions [.table nonspacingMarkRanges, .table spacingMarkRanges,
      .table decimalNumberRanges, .table connectorPunctuationRanges,
      .table otherIdContinueRanges]) patternClass]

def xidStartClass : CharClass :=
  .difference idStartClass (.table xidStartExceptionRanges)

def xidContinueClass : CharClass :=
  .difference idContinueClass (.table xidContinueExceptionRanges)

/-! ## Graphemes -/

/-- Characters that are shown as nothing where they are not supported. Annotation marks and the
controls of hieroglyphs are left out. -/
def defaultIgnorableClass : CharClass :=
  .difference
    (.unions [.table otherDefaultIgnorableRanges, .table formatRanges,
      .table variationSelectorRanges])
    (.unions [.table spaceRanges, .range 0xfff9 0xfffb, .range 0x13430 0x1343f,
      .table prependedConcatenationMarkRanges])

/-- Every character that stands for itself and does not extend another. -/
def graphemeBaseClass : CharClass :=
  .complement (.unions [.table controlRanges, .table formatRanges, .table privateUseRanges,
    unassignedClass, .table lineSeparatorRanges, .table paragraphSeparatorRanges,
    .table graphemeExtendRanges])

/-! ## The part of a property that its definition adds to categories -/

def otherAlphabeticClass : CharClass :=
  .intersection (.table alphabeticRanges) (.union markClass (.table otherSymbolRanges))

def otherGraphemeExtendClass : CharClass :=
  .difference (.table graphemeExtendRanges)
    (.union (.table nonspacingMarkRanges) (.table enclosingMarkRanges))

def otherLowercaseClass : CharClass :=
  .difference (.table lowercaseRanges) (.table lowercaseLetterRanges)

def otherMathClass : CharClass :=
  .difference (.table mathRanges) (.table mathSymbolRanges)

def otherUppercaseClass : CharClass :=
  .difference (.table uppercaseRanges) (.table uppercaseLetterRanges)

/-! ## All of them -/

/-- The names of each yes-or-no property and its characters. -/
def binaryProperties : PropertyTable := [
  (["asciihexdigit", "ahex"], .table asciiHexDigitRanges),
  (["alphabetic", "alpha"], .table alphabeticRanges),
  (["bidicontrol", "bidic"], .table bidiControlRanges),
  (["bidimirrored", "bidim"], .table bidiMirroredRanges),
  (["caseignorable", "ci"], .table caseIgnorableRanges),
  (["cased"], .table casedRanges),
  (["changeswhencasefolded", "cwcf"], changesWhenCasefoldedClass),
  (["changeswhencasemapped", "cwcm"], changesWhenCasemappedClass),
  (["changeswhenlowercased", "cwl"], changesWhenLowercasedClass),
  (["changeswhentitlecased", "cwt"], changesWhenTitlecasedClass),
  (["changeswhenuppercased", "cwu"], changesWhenUppercasedClass),
  (["dash"], .table dashRanges),
  (["defaultignorablecodepoint", "di"], defaultIgnorableClass),
  (["deprecated", "dep"], .table deprecatedRanges),
  (["diacritic", "dia"], .table diacriticRanges),
  (["emoji"], .table emojiRanges),
  (["emojicomponent", "ecomp"], .table emojiComponentRanges),
  (["emojimodifier", "emod"], .table emojiModifierRanges),
  (["emojimodifierbase", "ebase"], .table emojiModifierBaseRanges),
  (["emojipresentation", "epres"], .table emojiPresentationRanges),
  (["extendedpictographic", "extpict"], .table extendedPictographicRanges),
  (["extender", "ext"], .table extenderRanges),
  (["graphemebase", "grbase"], graphemeBaseClass),
  (["graphemeextend", "grext"], .table graphemeExtendRanges),
  (["graphemelink", "grlink"], .table graphemeLinkRanges),
  (["hexdigit", "hex"], .table hexDigitRanges),
  (["hyphen"], .table hyphenRanges),
  (["idsbinaryoperator", "idsb"], .table idsBinaryOperatorRanges),
  (["idstrinaryoperator", "idst"], .table idsTrinaryOperatorRanges),
  (["idsunaryoperator", "idsu"], .table idsUnaryOperatorRanges),
  (["idcompatmathcontinue"], .table idCompatMathContinueRanges),
  (["idcompatmathstart"], .table idCompatMathStartRanges),
  (["idcontinue", "idc"], idContinueClass),
  (["idstart", "ids"], idStartClass),
  (["ideographic", "ideo"], .table ideographicRanges),
  (["joincontrol", "joinc"], .table joinControlRanges),
  (["logicalorderexception", "loe"], .table logicalOrderExceptionRanges),
  (["lowercase", "lower"], .table lowercaseRanges),
  (["math"], .table mathRanges),
  (["modifiercombiningmark", "mcm"], .table modifierCombiningMarkRanges),
  (["noncharactercodepoint", "nchar"], .table noncharacterRanges),
  (["otheralphabetic", "oalpha"], otherAlphabeticClass),
  (["otherdefaultignorablecodepoint", "odi"], .table otherDefaultIgnorableRanges),
  (["othergraphemeextend", "ogrext"], otherGraphemeExtendClass),
  (["otheridcontinue", "oidc"], .table otherIdContinueRanges),
  (["otheridstart", "oids"], .table otherIdStartRanges),
  (["otherlowercase", "olower"], otherLowercaseClass),
  (["othermath", "omath"], otherMathClass),
  (["otheruppercase", "oupper"], otherUppercaseClass),
  (["patternsyntax", "patsyn"], .table patternSyntaxRanges),
  (["patternwhitespace", "patws"], .table patternWhiteSpaceRanges),
  (["prependedconcatenationmark", "pcm"], .table prependedConcatenationMarkRanges),
  (["quotationmark", "qmark"], .table quotationMarkRanges),
  (["radical"], .table radicalRanges),
  (["regionalindicator", "ri"], .table regionalIndicatorRanges),
  (["sentenceterminal", "sterm"], .table sentenceTerminalRanges),
  (["softdotted", "sd"], .table softDottedRanges),
  (["terminalpunctuation", "term"], .table terminalPunctuationRanges),
  (["unifiedideograph", "uideo"], .table unifiedIdeographRanges),
  (["uppercase", "upper"], .table uppercaseRanges),
  (["variationselector", "vs"], .table variationSelectorRanges),
  (["whitespace", "wspace", "space"], .table spaceRanges),
  (["xidcontinue", "xidc"], xidContinueClass),
  (["xidstart", "xids"], xidStartClass)]

end RecordQuery.Pattern
