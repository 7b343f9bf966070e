import RecordQuery.Text.Tables.Print

/-!
# Quoted text

Messages show a text in double quotes. A quote, a backslash and the usual blanks have short escapes.
A character that does not print, that fills a place without a mark, or that would merge with the one
before it, is shown by its code point in hexadecimal digits, as other escapes are too.
-/

namespace RecordQuery.Text

/-! ## Hexadecimal digits -/

/-- The lower-case hexadecimal digits of `n`, at least `width` of them. -/
def hexText (width n : Nat) : String :=
  let digits := Nat.toDigits 16 n
  String.ofList (List.replicate (width - digits.length) '0' ++ digits)

def hexDigit? (c : Char) : Option Nat :=
  if '0' ≤ c ∧ c ≤ '9' then some (c.toNat - 48)
  else if 'a' ≤ c ∧ c ≤ 'f' then some (c.toNat - 87)
  else if 'A' ≤ c ∧ c ≤ 'F' then some (c.toNat - 55)
  else none

/-! ## Quotes -/

/-- Whether a character merges with the one before it. The halfwidth sound marks have a cell of
their own, although they extend a grapheme too. -/
def combines (c : Char) : Bool :=
  graphemeExtendRanges.contains c && c != '\uff9e' && c != '\uff9f'

/-- Whether a character is shown as it is. -/
def isVisible (c : Char) : Bool :=
  printableRanges.contains c && !fillerRanges.contains c && !combines c

/-- A character as it stands between the quotes. -/
def showChar (c : Char) : String :=
  match c with
  | '"' => "\\\""
  | '\\' => "\\\\"
  | '\n' => "\\n"
  | '\r' => "\\r"
  | '\t' => "\\t"
  | _ =>
    if c.toNat = 0 then "\\0"
    else if isVisible c then c.toString
    else "\\u\x7b" ++ hexText 1 c.toNat ++ "\x7d"

def quoted (s : String) : String :=
  "\"" ++ String.join (s.toList.map showChar) ++ "\""

end RecordQuery.Text
