import RecordQuery.Json.Basic
import RecordQuery.Text.Quoted

/-!
# Reading JSON text

`Json.parse?` reads one value. The text is cut into tokens and the tokens are read one by one with a
stack of the arrays and objects that are still open. Of equal keys in an object the last value
counts, in the place of the first.
-/

namespace RecordQuery.Json

/-! ## Tokens -/

inductive Token where
  | openBrace
  | closeBrace
  | openBracket
  | closeBracket
  | comma
  | colon
  | scalar (value : Json)
  | text (s : String)

def isBlank (c : Char) : Bool :=
  c = ' ' || c = '\t' || c = '\n' || c = '\r'

/-- The number that four hexadecimal digits spell. -/
def hexUnit? (a b c d : Char) : Option Nat := do
  return 4096 * (← Text.hexDigit? a) + 256 * (← Text.hexDigit? b) + 16 * (← Text.hexDigit? c) +
    (← Text.hexDigit? d)

def isLeadUnit (n : Nat) : Bool :=
  0xd800 ≤ n && n < 0xdc00

def isTrailUnit (n : Nat) : Bool :=
  0xdc00 ≤ n && n < 0xe000

/-- The character that a one-letter escape stands for. -/
def simpleEscape? : Char → Option Char
  | '"' => some '"'
  | '\\' => some '\\'
  | '/' => some '/'
  | 'b' => some (Char.ofNat 8)
  | 'f' => some (Char.ofNat 12)
  | 'n' => some '\n'
  | 'r' => some '\r'
  | 't' => some '\t'
  | _ => none

/-- What stands between the quotes, escapes left as they are, and what follows the closing quote. A
character after a backslash does not close the string. -/
def cutString : List Char → Option (List Char × List Char)
  | [] => none
  | '"' :: rest => some ([], rest)
  | '\\' :: c :: rest => (cutString rest).map fun (raw, after) => ('\\' :: c :: raw, after)
  | c :: rest => (cutString rest).map fun (raw, after) => (c :: raw, after)

theorem cutString_length {s raw after : List Char} (h : cutString s = some (raw, after)) :
    after.length < s.length := by
  fun_induction cutString s generalizing raw after with
  | case1 => simp at h
  | case2 rest => simp_all
  | case3 c rest ih =>
    obtain ⟨⟨r, a⟩, hr, he⟩ := Option.map_eq_some_iff.1 h
    have := ih hr
    grind
  | case4 c rest _ _ ih =>
    obtain ⟨⟨r, a⟩, hr, he⟩ := Option.map_eq_some_iff.1 h
    have := ih hr
    grind

/-- The characters that the inside of a string stands for. A control character is refused, and so
is half of a surrogate pair. -/
def unescape : List Char → Option (List Char)
  | [] => some []
  | '\\' :: 'u' :: a :: b :: c :: d :: rest => do
    let unit ← hexUnit? a b c d
    if isLeadUnit unit then
      -- its other half has to follow
      match rest with
      | '\\' :: 'u' :: e :: f :: g :: h :: rest => do
        let trail ← hexUnit? e f g h
        if isTrailUnit trail then
          let c := Char.ofNat (0x10000 + (unit - 0xd800) * 1024 + (trail - 0xdc00))
          (unescape rest).map (c :: ·)
        else none
      | _ => none
    else if isTrailUnit unit then none
    else (unescape rest).map (Char.ofNat unit :: ·)
  | '\\' :: c :: rest => do
    let escaped ← simpleEscape? c
    (unescape rest).map (escaped :: ·)
  | c :: rest => if c < ' ' || c = '\\' then none else (unescape rest).map (c :: ·)

/-- The number that decimal digits spell. -/
def digitsValue (digits : List Char) : Nat :=
  digits.foldl (fun n c => 10 * n + (c.toNat - 48)) 0

/-- The exponent after the letter `e`: an optional sign and at least one digit. -/
def exponent? (s : List Char) : Option Int :=
  let (negative, digits) :=
    match s with
    | '-' :: rest => (true, rest)
    | '+' :: rest => (false, rest)
    | rest => (false, rest)
  if digits.isEmpty || !digits.all Char.isDigit then none
  else some (if negative then -(digitsValue digits) else digitsValue digits)

/-- What follows the digits of a number's whole part: the digits after the point and the
exponent. -/
def fraction? (s : List Char) : Option (List Char × Int) :=
  match s with
  | '.' :: rest =>
    let digits := rest.takeWhile Char.isDigit
    if digits.isEmpty then none
    else
      match rest.dropWhile Char.isDigit with
      | [] => some (digits, 0)
      | 'e' :: rest => (exponent? rest).map (digits, ·)
      | 'E' :: rest => (exponent? rest).map (digits, ·)
      | _ => none
  | 'e' :: rest => (exponent? rest).map ([], ·)
  | 'E' :: rest => (exponent? rest).map ([], ·)
  | _ => none

/-- The number that a whole word spells. One without point and exponent is an integer as far as
64 bits reach. The whole part has no leading zero, and a number that rounds to infinity is
refused. -/
def numeral? (word : List Char) : Option Numeral :=
  let (negative, body) :=
    match word with
    | '-' :: rest => (true, rest)
    | rest => (false, rest)
  let whole := body.takeWhile Char.isDigit
  let rest := body.dropWhile Char.isDigit
  -- a zero may only be the whole part by itself
  if whole.isEmpty || (whole.head? = some '0' && 1 < whole.length) then none
  else if rest.isEmpty then Numeral.ofInteger? negative (digitsValue whole)
  else do
    let (digits, exponent) ← fraction? rest
    Numeral.ofDecimal? negative ⟨digitsValue (whole ++ digits), exponent - digits.length⟩

/-- The value that a word outside strings spells. -/
def word? (word : List Char) : Option Json :=
  if word = ['n', 'u', 'l', 'l'] then some .null
  else if word = ['t', 'r', 'u', 'e'] then some (.bool true)
  else if word = ['f', 'a', 'l', 's', 'e'] then some (.bool false)
  else (numeral? word).map .number

def isWordChar (c : Char) : Bool :=
  c.isAlphanum || c = '-' || c = '+' || c = '.'

def punctuation? : Char → Option Token
  | '\x7b' => some .openBrace
  | '\x7d' => some .closeBrace
  | '[' => some .openBracket
  | ']' => some .closeBracket
  | ',' => some .comma
  | ':' => some .colon
  | _ => none

/-- The tokens of a text, blanks between them skipped. -/
def tokens (s : List Char) : Option (List Token) :=
  match s with
  | [] => some []
  | c :: rest =>
    if isBlank c then tokens rest
    else
      match punctuation? c with
      | some token => (tokens rest).map (token :: ·)
      | none =>
        if c = '"' then
          match h : cutString rest with
          | some (raw, after) =>
            have := cutString_length h
            match unescape raw with
            | some body => (tokens after).map (.text (String.ofList body) :: ·)
            | none => none
          | none => none
        else if isWordChar c then
          match word? (c :: rest.takeWhile isWordChar) with
          | some value =>
            have := (List.dropWhile_sublist (l := rest) isWordChar).length_le
            (tokens (rest.dropWhile isWordChar)).map (.scalar value :: ·)
          | none => none
        else none
termination_by s.length

/-! ## Values -/

/-- An array or object that is still open while one of its parts is read. -/
inductive Frame where
  /-- The elements read so far, the last one first. -/
  | array (items : List Json)
  /-- The fields read so far and the key whose value is being read. -/
  | object (fields : Fields Json) (key : String)

/-- What the tokens read so far allow next. The stack holds the open containers, innermost
first, around the place that the state speaks of. -/
inductive State where
  /-- A value. -/
  | value (stack : List Frame)
  /-- The first element of an array, or its end. -/
  | firstItem (stack : List Frame)
  /-- A comma or the end of an array. -/
  | afterItem (stack : List Frame) (items : List Json)
  /-- The first key of an object, or its end. -/
  | firstKey (stack : List Frame)
  /-- A further key of an object. -/
  | key (stack : List Frame) (fields : Fields Json)
  /-- The colon after a key. -/
  | colon (stack : List Frame) (fields : Fields Json) (key : String)
  /-- A comma or the end of an object. -/
  | afterField (stack : List Frame) (fields : Fields Json)
  /-- Nothing: the value is complete. -/
  | done (value : Json)

/-- How many arrays and objects may be open at once. -/
def depthLimit : Nat := 127

/-- The state after a complete value. -/
def complete (value : Json) : List Frame → State
  | [] => .done value
  | .array items :: stack => .afterItem stack (value :: items)
  | .object fields key :: stack => .afterField stack (fields.insert key value)

/-- The state after the first token of a value. -/
def begin? (stack : List Frame) : Token → Option State
  | .scalar value => some (complete value stack)
  | .text s => some (complete (.string s) stack)
  | .openBracket => if stack.length < depthLimit then some (.firstItem stack) else none
  | .openBrace => if stack.length < depthLimit then some (.firstKey stack) else none
  | _ => none

/-- The state after one more token; `none` if the token may not stand there. -/
def step? : State → Token → Option State
  | .value stack, token => begin? stack token
  | .firstItem stack, .closeBracket => some (complete (.ofList []) stack)
  | .firstItem stack, token => begin? (.array [] :: stack) token
  | .afterItem stack items, .comma => some (.value (.array items :: stack))
  | .afterItem stack items, .closeBracket => some (complete (.ofList items.reverse) stack)
  | .firstKey stack, .closeBrace => some (complete (.ofFields .empty) stack)
  | .firstKey stack, .text key => some (.colon stack .empty key)
  -- unlike the first key, a further one cannot be missing
  | .key stack fields, .text key => some (.colon stack fields key)
  | .colon stack fields key, .colon => some (.value (.object fields key :: stack))
  | .afterField stack fields, .comma => some (.key stack fields)
  | .afterField stack fields, .closeBrace => some (complete (.ofFields fields) stack)
  | _, _ => none

/-- The value that a text spells, if it spells exactly one. -/
def parse? (s : String) : Option Json := do
  match ← (← tokens s.toList).foldlM step? (.value []) with
  | .done value => some value
  | _ => none

end RecordQuery.Json
