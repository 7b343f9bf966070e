import RecordQuery.Pattern.CharClass
import RecordQuery.Pattern.Tables.Category
import RecordQuery.Pattern.Tables.Script

/-!
# General categories and scripts

Every character has one general category and one script. A name stands for a category or for several
related ones, and a script has a name and a code. A character may be used in other scripts than its
own.
-/

namespace RecordQuery.Pattern

open Text

def letterClass : CharClass :=
  .unions [.table uppercaseLetterRanges, .table lowercaseLetterRanges,
    .table titlecaseLetterRanges, .table modifierLetterRanges, .table otherLetterRanges]

def casedLetterClass : CharClass :=
  .unions [.table uppercaseLetterRanges, .table lowercaseLetterRanges,
    .table titlecaseLetterRanges]

def markClass : CharClass :=
  .unions [.table nonspacingMarkRanges, .table spacingMarkRanges, .table enclosingMarkRanges]

def numberClass : CharClass :=
  .unions [.table decimalNumberRanges, .table letterNumberRanges, .table otherNumberRanges]

def punctuationClass : CharClass :=
  .unions [.table connectorPunctuationRanges, .table dashPunctuationRanges,
    .table openPunctuationRanges, .table closePunctuationRanges, .table initialPunctuationRanges,
    .table finalPunctuationRanges, .table otherPunctuationRanges]

def symbolClass : CharClass :=
  .unions [.table mathSymbolRanges, .table currencySymbolRanges, .table modifierSymbolRanges,
    .table otherSymbolRanges]

def separatorClass : CharClass :=
  .unions [.table spaceSeparatorRanges, .table lineSeparatorRanges,
    .table paragraphSeparatorRanges]

/-- Every category that is no letter, mark, number, punctuation, symbol or separator. -/
def otherClass : CharClass :=
  .complement (.unions [letterClass, markClass, numberClass, punctuationClass, symbolClass,
    separatorClass])

def unassignedClass : CharClass :=
  .difference otherClass (.unions [.table controlRanges, .table formatRanges,
    .table privateUseRanges])

/-- The names of each general category and its characters. Surrogates are no characters and have
none. -/
def categories : PropertyTable := [
  (["any"], .complement .empty),
  (["ascii"], .range 0 0x7f),
  (["assigned"], .complement unassignedClass),
  (["l", "letter"], letterClass),
  (["lc", "casedletter"], casedLetterClass),
  (["lu", "uppercaseletter"], .table uppercaseLetterRanges),
  (["ll", "lowercaseletter"], .table lowercaseLetterRanges),
  (["lt", "titlecaseletter"], .table titlecaseLetterRanges),
  (["lm", "modifierletter"], .table modifierLetterRanges),
  (["lo", "otherletter"], .table otherLetterRanges),
  (["m", "mark", "combiningmark"], markClass),
  (["mn", "nonspacingmark"], .table nonspacingMarkRanges),
  (["mc", "spacingmark"], .table spacingMarkRanges),
  (["me", "enclosingmark"], .table enclosingMarkRanges),
  (["n", "number"], numberClass),
  (["nd", "decimalnumber", "digit"], .table decimalNumberRanges),
  (["nl", "letternumber"], .table letterNumberRanges),
  (["no", "othernumber"], .table otherNumberRanges),
  (["p", "punctuation", "punct"], punctuationClass),
  (["pc", "connectorpunctuation"], .table connectorPunctuationRanges),
  (["pd", "dashpunctuation"], .table dashPunctuationRanges),
  (["ps", "openpunctuation"], .table openPunctuationRanges),
  (["pe", "closepunctuation"], .table closePunctuationRanges),
  (["pi", "initialpunctuation"], .table initialPunctuationRanges),
  (["pf", "finalpunctuation"], .table finalPunctuationRanges),
  (["po", "otherpunctuation"], .table otherPunctuationRanges),
  (["s", "symbol"], symbolClass),
  (["sm", "mathsymbol"], .table mathSymbolRanges),
  (["sc", "currencysymbol"], .table currencySymbolRanges),
  (["sk", "modifiersymbol"], .table modifierSymbolRanges),
  (["so", "othersymbol"], .table otherSymbolRanges),
  (["z", "separator"], separatorClass),
  (["zs", "spaceseparator"], .table spaceSeparatorRanges),
  (["zl", "lineseparator"], .table lineSeparatorRanges),
  (["zp", "paragraphseparator"], .table paragraphSeparatorRanges),
  (["c", "other"], otherClass),
  (["cc", "control", "cntrl"], .table controlRanges),
  (["cf", "format"], .table formatRanges),
  (["co", "privateuse"], .table privateUseRanges),
  (["cn", "unassigned"], unassignedClass)]

def findCategory (name : String) : Option CharClass :=
  categories.find name

/-! ## Scripts -/

/-- The code of the script with the given name or code. -/
def findScriptCode (name : String) : Option String :=
  (scriptNames.find? fun (long, code) => long = name || code = name).map (·.2)

/-- The characters of the script with the given code. -/
def scriptClass (code : String) : CharClass :=
  .table <| (scriptRangesLow ++ scriptRangesMiddle ++ scriptRangesHigh).filterMap
    fun (low, high, script) => if script = code then some (low, high) else none

/-- The characters that are used in the script with the given code. A character without scripts of
use on record is used in its own. -/
def scriptExtensionClass (code : String) : CharClass :=
  .union
    (.difference (scriptClass code)
      (.table (scriptExtensionRanges.map fun (low, high, _) => (low, high))))
    (.table <| scriptExtensionRanges.filterMap fun (low, high, codes) =>
      if codes.contains code then some (low, high) else none)

end RecordQuery.Pattern
