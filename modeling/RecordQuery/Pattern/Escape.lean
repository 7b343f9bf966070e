import RecordQuery.Pattern.Expr
import RecordQuery.Pattern.Flags
import RecordQuery.Pattern.Property
import RecordQuery.Text.Quoted

/-!
# Escapes in patterns

After a backslash stands a character without its special meaning, a character by its code, a class
by its letter or its property, or an anchor. `escape?` reads what stands there.
-/

namespace RecordQuery.Pattern

open Text

/-- One element of a pattern or of a bracketed class. -/
inductive Primitive where
  /-- A character; `isByte` if it was written as a byte, with two hexadecimal digits. -/
  | literal (c : Char) (isByte : Bool)
  | dot
  | assertion (a : Assertion)
  /-- A class with a letter of its own or the name of a property. -/
  | named (cls : CharClass)

/-- The characters with a meaning of their own, which a backslash takes from them. -/
def isMeta (c : Char) : Bool :=
  ['\\', '.', '+', '*', '?', '(', ')', '|', '[', ']', '\x7b', '\x7d', '^', '$', '#', '&', '-',
    '~'].contains c

/-- Whether a backslash before the character leaves it as it is. -/
def isEscapable (c : Char) : Bool :=
  isMeta c || (c.toNat < 0x80 && !c.isAlphanum && c != '<' && c != '>')

/-- The character of a code point, unless it is a surrogate or too large. -/
def charOf? (code : Nat) : Option Char :=
  if code.isValidChar then some (Char.ofNat code) else none

/-- A given number of hexadecimal digits. -/
def hexDigits? (flags : Flags) : (count acc : Nat) → List Char → Option (Nat × List Char)
  | 0, acc, s => some (acc, s)
  | count + 1, acc, s =>
    match s with
    | [] => none
    | c :: rest => do hexDigits? flags count (16 * acc + (← hexDigit? c)) (flags.skip rest)

/-- The code of a character after the letter that opens its hexadecimal form: a fixed number of
digits, or any number of them in braces. -/
def hexLiteral? (flags : Flags) (width : Nat) (s : List Char) : Option (Primitive × List Char) := do
  match flags.skip s with
  | '\x7b' :: rest =>
    match flags.run (· != '\x7d') rest with
    | (digits, _ :: after) =>
      if digits.isEmpty then none
      else
        let code ← digits.foldlM (fun n c => (hexDigit? c).map (16 * n + ·)) 0
        return (.literal (← charOf? code) false, flags.skip after)
    | (_, []) => none
  | rest =>
    let (code, after) ← hexDigits? flags width 0 rest
    return (.literal (← charOf? code) (width = 2 && code < 0x100), after)

/-- A class with a letter of its own: digits, white space or word characters. A capital letter
negates, which without Unicode is refused. -/
def letterClass? (flags : Flags) (c : Char) : Option CharClass :=
  let digit : CharClass := if flags.unicode then .table digitRanges else .range 0x30 0x39
  let space : CharClass := if flags.unicode then .table spaceRanges
    else .unions [.range 9 13, .single ' ']
  let word : CharClass := if flags.unicode then .table wordRanges
    else .unions [.range 0x30 0x39, .range 0x41 0x5a, .range 0x61 0x7a, .single '_']
  let negation (cls : CharClass) : Option CharClass :=
    if flags.unicode then some (.complement cls) else none
  match c with
  | 'd' => some digit
  | 'D' => negation digit
  | 's' => some space
  | 'S' => negation space
  | 'w' => some word
  | 'W' => negation word
  | _ => none

/-- The parts of a list before and after the first place where `separator` stands. -/
def splitAtFirst (separator : List Char) : List Char → Option (List Char × List Char)
  | [] => none
  | c :: rest =>
    if separator.isPrefixOf (c :: rest) then some ([], (c :: rest).drop separator.length)
    else (splitAtFirst separator rest).map fun (a, b) => (c :: a, b)

/-- The class that the name of a property stands for, or a property and a value with `!=`, `:` or
`=` between them. The three marks mean the same: a class is negated by the letter before its braces
alone. -/
def namedClass? (name : List Char) : Option CharClass :=
  match [['!', '='], [':'], ['=']].findSome? (splitAtFirst · name) with
  | some (property, value) => findPropertyValue (String.ofList property) (String.ofList value)
  | none => findProperty (String.ofList name)

/-- A class named by a property, after the letter that opens it: one letter, or a name in
braces. Without Unicode there are no such classes. -/
def propertyClass? (flags : Flags) (negated : Bool) (s : List Char) :
    Option (Primitive × List Char) := do
  let (name, after) ← match flags.skip s with
    | [] => none
    | '\x7b' :: rest =>
      match flags.run (· != '\x7d') rest with
      | (name, _ :: after) => some (name, after)
      | (_, []) => none
    | '\\' :: _ => none
    | c :: rest => some ([c], flags.skip rest)
  if flags.unicode then
    return (.named (← flags.close? negated (← namedClass? name)), after)
  else none

/-- The name in braces after a word boundary, if the braces hold letters and hyphens alone at
first; such braces have to be closed and to hold a known name. -/
def boundaryName? (flags : Flags) (s : List Char) : Option (Option (String × List Char)) :=
  let isName (c : Char) : Bool := c.isAlpha || c = '-'
  match s with
  | '\x7b' :: rest =>
    match flags.skip rest with
    | [] => none
    | c :: body =>
      if !isName c then some none
      else
        match flags.run isName (c :: body) with
        | (name, '\x7d' :: after) => some (some (String.ofList name, after))
        | _ => none
  | _ => some none

/-- The word boundary after its letter, with a name in braces or without. -/
def wordBoundary? (flags : Flags) (s : List Char) : Option (Primitive × List Char) := do
  match ← boundaryName? flags s with
  | none => return (.assertion (.wordBoundary flags.unicode), s)
  | some ("start", after) => return (.assertion (.wordStart flags.unicode), after)
  | some ("end", after) => return (.assertion (.wordEnd flags.unicode), after)
  | some ("start-half", after) => return (.assertion (.wordStartHalf flags.unicode), after)
  | some ("end-half", after) => return (.assertion (.wordEndHalf flags.unicode), after)
  | some _ => none

/-- What stands after a backslash. -/
def escape? (flags : Flags) : List Char → Option (Primitive × List Char)
  | [] => none
  | c :: rest =>
    if isEscapable c then some (.literal c false, rest)
    else
      match c with
      | 'x' => hexLiteral? flags 2 rest
      | 'u' => hexLiteral? flags 4 rest
      | 'U' => hexLiteral? flags 8 rest
      | 'p' => propertyClass? flags false rest
      | 'P' => propertyClass? flags true rest
      | 'a' => some (.literal (Char.ofNat 7) false, rest)
      | 'f' => some (.literal (Char.ofNat 12) false, rest)
      | 't' => some (.literal '\t' false, rest)
      | 'n' => some (.literal '\n' false, rest)
      | 'r' => some (.literal '\r' false, rest)
      | 'v' => some (.literal (Char.ofNat 11) false, rest)
      | 'A' => some (.assertion .textStart, rest)
      | 'z' => some (.assertion .textEnd, rest)
      | 'b' => wordBoundary? flags rest
      | 'B' => some (.assertion (.notWordBoundary flags.unicode), rest)
      | '<' => some (.assertion (.wordStart flags.unicode), rest)
      | '>' => some (.assertion (.wordEnd flags.unicode), rest)
      | _ => (letterClass? flags c).map (.named ·, rest)

end RecordQuery.Pattern
