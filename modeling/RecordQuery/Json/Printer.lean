import RecordQuery.Json.Basic
import RecordQuery.Text.Quoted

/-!
# Compact JSON text

`Json.text` writes a value without blanks. Integers are written as they are and other numbers so
that they still read as such. A string escapes the quote, the backslash and the control characters
below the space; every other character stands for itself.
-/

namespace RecordQuery

namespace Json

/-- A character as it stands between the quotes of a string. -/
def escapeChar (c : Char) : String :=
  match c with
  | '"' => "\\\""
  | '\\' => "\\\\"
  | '\n' => "\\n"
  | '\r' => "\\r"
  | '\t' => "\\t"
  | _ =>
    if c.toNat = 8 then "\\b"
    else if c.toNat = 12 then "\\f"
    else if c.toNat < 32 then "\\u" ++ Text.hexText 4 c.toNat
    else c.toString

def quote (s : String) : String :=
  "\"" ++ String.join (s.toList.map escapeChar) ++ "\""

end Json

def Numeral.jsonText : Numeral → String
  | .integer n _ _ => toString n
  | .real x _ => x.jsonText

namespace Json

/-- The value without blanks: `{"a":[1,2.5,null]}`. -/
def text : Json → String
  | .null => "null"
  | .bool b => if b then "true" else "false"
  | .number n => n.jsonText
  | .string s => quote s
  | .array _ item => "[" ++ ",".intercalate (List.ofFn fun i => text (item i)) ++ "]"
  | .object keys _ value =>
    "\x7b" ++ ",".intercalate (List.ofFn fun i => quote (keys.get i) ++ ":" ++ text (value i)) ++
      "\x7d"

end Json

end RecordQuery
