import RecordQuery.Pattern.Bracket

/-!
# Reading patterns

A `Pattern` is a regular expression together with the text that it was read from. `readExpr?` reads
the text of a pattern under initial flags. Groups are kept on a stack, so that the
text is gone through once, from left to right. A pattern with look-around or back-references is
refused, and so is one that nests too deep or whose written-out size is past a limit.
-/

namespace RecordQuery.Pattern

open Text

/-! ## Repetition -/

/-- A decimal count, blanks around it dropped. -/
def count? (flags : Flags) (s : List Char) : Option Nat × List Char :=
  let isSpace (c : Char) : Bool := spaceRanges.contains c
  let (digits, rest) := flags.run Char.isDigit (s.dropWhile isSpace)
  let rest := rest.dropWhile isSpace
  let value := digits.foldl (fun n c => 10 * n + (c.toNat - 48)) 0
  if digits.isEmpty || 0x100000000 ≤ value then (none, rest) else (some value, rest)

/-- The bounds of a repetition after its opening brace. -/
def bounds? (flags : Flags) (s : List Char) : Option (Nat × Option Nat × List Char) := do
  let (low, rest) := count? flags (flags.skip s)
  let low ← low
  match rest with
  | '\x7d' :: after => return (low, some low, after)
  | ',' :: rest =>
    match flags.skip rest with
    | '\x7d' :: after => return (low, none, after)
    | rest =>
      let (high, rest) := count? flags rest
      let high ← high
      match rest with
      | '\x7d' :: after => if low ≤ high then return (low, some high, after) else none
      | _ => none
  | _ => none

/-- Drops the mark that makes a repetition prefer fewer rounds. -/
def dropLazyMark : List Char → List Char
  | '?' :: rest => rest
  | s => s

/-! ## Groups and flags -/

/-- Sets the flag with the given letter. -/
def Flags.set? (flags : Flags) (letter : Char) (on : Bool) : Option Flags :=
  match letter with
  | 'i' => some { flags with caseInsensitive := on }
  | 'm' => some { flags with multiLine := on }
  | 's' => some { flags with dotMatchesNewLine := on }
  | 'U' => some { flags with swapGreed := on }
  | 'u' => some { flags with unicode := on }
  | 'R' => some { flags with crlf := on }
  | 'x' => some { flags with ignoreWhitespace := on }
  | _ => none

/-- Reads flag letters up to the colon or parenthesis that ends them, which is given back too. No
letter and no minus sign may come twice, and a minus sign may not come last. -/
def readFlags (seen : List Char) (on : Bool) (flags : Flags) :
    List Char → Option (Flags × List Char × Char × List Char)
  | [] => none
  | c :: rest =>
    if c = ':' || c = ')' then
      if seen.head? = some '-' then none else some (flags, seen, c, rest)
    else if seen.contains c then none
    else if c = '-' then readFlags (c :: seen) false flags rest
    else do readFlags (c :: seen) on (← flags.set? c on) rest

/-- Whether a character may stand in the name of a capture group, at its start or later. -/
def isNameChar (isFirst : Bool) (c : Char) : Bool :=
  c = '_' || alphabeticRanges.contains c ||
    (!isFirst && (c = '.' || c = '[' || c = ']' || numberClass.contains c))

/-- The name of a capture group up to its closing angle bracket. -/
def groupName? (s : List Char) : Option (String × List Char) :=
  let name := s.takeWhile (· != '>')
  match s.dropWhile (· != '>'), name with
  | _ :: rest, first :: others =>
    if isNameChar true first && others.all (isNameChar false) then some (String.ofList name, rest)
    else none
  | _, _ => none

/-! ## The whole pattern -/

/-- A part of a pattern, and how deep groups, repetitions, brackets, rows and alternatives are
nested in it. -/
structure Element where
  /-- Missing if the part only sets flags; such a part cannot be repeated. -/
  expr : Option Expr
  depth : Nat

/-- Elements one after the other, last one first. Several nest one level deeper than one alone. -/
def Element.row (elements : List Element) : Element where
  expr := some (elements.foldl (fun rest e => match e.expr, rest with
    | some e, .empty => e
    | some e, _ => .seq e rest
    | none, _ => rest) .empty)
  depth := (elements.map (·.depth)).foldr max 0 + if elements.length ≤ 1 then 0 else 1

/-- One of several elements, last one first. -/
def Element.choice (elements : List Element) : Element :=
  match elements with
  | [] => row []
  | last :: others =>
    { expr := some (others.foldl (fun rest e => .alt (e.expr.getD .empty) rest)
        (last.expr.getD .empty))
      depth := (elements.map (·.depth)).foldr max 0 + if others.isEmpty then 0 else 1 }

/-- A group that is still open: the alternatives and the elements read before it, last one first,
and the flags to go back to. -/
structure GroupFrame where
  alternatives : List Element
  elements : List Element
  flags : Flags
  captures : Bool

/-- What has been read of a pattern. -/
structure Progress where
  stack : List GroupFrame
  alternatives : List Element
  elements : List Element
  flags : Flags
  names : List String

namespace Progress

/-- Adds an element in which `depth` levels are nested. -/
def pushNested (p : Progress) (e : Expr) (depth : Nat) : Progress :=
  { p with elements := ⟨some e, depth⟩ :: p.elements }

def push (p : Progress) (e : Expr) : Progress :=
  p.pushNested e 0

/-- The alternatives of the current group. -/
def alternation (p : Progress) : Element :=
  .choice (.row p.elements :: p.alternatives)

/-- Begins a further alternative. -/
def alternate (p : Progress) : Progress :=
  { p with alternatives := .row p.elements :: p.alternatives, elements := [] }

/-- Opens a group that is read under the given flags. -/
def openGroup (p : Progress) (flags : Flags) (captures : Bool) : Progress :=
  { p with
    stack := ⟨p.alternatives, p.elements, p.flags, captures⟩ :: p.stack
    alternatives := []
    elements := []
    flags := flags }

/-- Closes the innermost group. -/
def closeGroup? (p : Progress) : Option Progress :=
  match p.stack, p.alternation with
  | frame :: stack, ⟨some e, depth⟩ =>
    some <| { p with
      stack := stack
      alternatives := frame.alternatives
      elements := frame.elements
      flags := frame.flags }.pushNested (if frame.captures then .capture e else e) (depth + 1)
  | _, _ => none

/-- Repeats the last element, of which there has to be one. -/
def repeatLast? (p : Progress) (low : Nat) (high : Option Nat) : Option Progress :=
  match p.elements with
  | ⟨some e, depth⟩ :: rest =>
    some { p with elements := ⟨some (.times e low high), depth + 1⟩ :: rest }
  | _ => none

/-- Adds a named capture group, whose name must be new. -/
def openNamed? (p : Progress) (s : List Char) : Option (Progress × List Char) := do
  let (name, rest) ← groupName? s
  if p.names.contains name then none
  else return ({ p with names := name :: p.names }.openGroup p.flags true, rest)

/-- What follows an opening parenthesis. -/
def openParenthesis? (p : Progress) (s : List Char) : Option (Progress × List Char) :=
  match p.flags.skip s with
  | '?' :: '=' :: _ | '?' :: '!' :: _ | '?' :: '<' :: '=' :: _ | '?' :: '<' :: '!' :: _ => none
  | '?' :: 'P' :: '<' :: rest => p.openNamed? rest
  | '?' :: '<' :: rest => p.openNamed? rest
  | '?' :: rest => do
    let (flags, seen, stop, after) ← readFlags [] true p.flags rest
    if stop = ')' then
      if seen.isEmpty then none
      else return ({ p with flags := flags, elements := ⟨none, 0⟩ :: p.elements }, after)
    else return (p.openGroup flags false, after)
  | rest => some (p.openGroup p.flags true, rest)

/-- Adds an element outside brackets. -/
def add? (p : Progress) : Primitive → Option Progress
  | .literal c isByte =>
    if isByte && !p.flags.unicode && 0x80 ≤ c.toNat then none
    else some (p.push (.char (p.flags.fold (.single c))))
  | .dot =>
    let excluded : CharClass :=
      if p.flags.dotMatchesNewLine then .empty
      else if p.flags.crlf then .union (.single '\n') (.single '\r')
      else .single '\n'
    if p.flags.unicode then some (p.push (.char (.complement excluded))) else none
  | .assertion a => some (p.push (.assertion a))
  | .named cls => some (p.push (.char cls))

/-- The condition at the start of a line or of the text. -/
def startAssertion (flags : Flags) : Assertion :=
  if !flags.multiLine then .textStart else if flags.crlf then .lineStartCrlf else .lineStart

/-- The condition at the end of a line or of the text. -/
def endAssertion (flags : Flags) : Assertion :=
  if !flags.multiLine then .textEnd else if flags.crlf then .lineEndCrlf else .lineEnd

/-- Reads one element, and gives back what follows it. -/
def step? (p : Progress) : List Char → Option (Progress × List Char)
  | [] => none
  | '(' :: rest => p.openParenthesis? rest
  | ')' :: rest => p.closeGroup?.map (·, rest)
  | '|' :: rest => some (p.alternate, rest)
  | '[' :: rest =>
    (bracketClass? p.flags rest).map fun (cls, rest) => (p.pushNested (.char cls.cls) cls.depth, rest)
  | '?' :: rest => (p.repeatLast? 0 (some 1)).map (·, dropLazyMark rest)
  | '*' :: rest => (p.repeatLast? 0 none).map (·, dropLazyMark rest)
  | '+' :: rest => (p.repeatLast? 1 none).map (·, dropLazyMark rest)
  | '\x7b' :: rest => do
    let (low, high, rest) ← bounds? p.flags rest
    return (← p.repeatLast? low high, dropLazyMark (p.flags.skip rest))
  | '\\' :: rest => do
    let (primitive, rest) ← escape? p.flags rest
    return (← p.add? primitive, rest)
  | '.' :: rest => (p.add? .dot).map (·, rest)
  | '^' :: rest => some (p.push (.assertion (startAssertion p.flags)), rest)
  | '$' :: rest => some (p.push (.assertion (endAssertion p.flags)), rest)
  | c :: rest => (p.add? (.literal c false)).map (·, rest)

end Progress

/-- Reads the rest of a pattern. Every element takes at least one character. -/
def readRest (p : Progress) (s : List Char) : Option Element :=
  match p.flags.skip s with
  | [] => if p.stack.isEmpty then some p.alternation else none
  | rest =>
    match p.step? rest with
    | some (p, after) => if after.length < s.length then readRest p after else none
    | none => none
termination_by s.length

/-- How many levels may be nested in a pattern. -/
def depthLimit : Nat := 250

/-- The largest written-out size of a pattern, in bytes. -/
def sizeLimit : Nat := 10485760

/-- The expression that a pattern spells under the given flags. -/
def readExpr? (flags : Flags) (pattern : String) : Option Expr := do
  let e ← readRest ⟨[], [], [], flags, []⟩ pattern.toList
  let expr ← e.expr
  if e.depth ≤ depthLimit && expr.size ≤ sizeLimit then some expr else none

end RecordQuery.Pattern

namespace RecordQuery

/-! ## Patterns -/

/-- A regular expression, ready to be matched. Two patterns count as equal if their texts are. -/
structure Pattern where
  source : String
  expr : Pattern.Expr

namespace Pattern

/-- Reads a pattern; `none` if the text is not one. -/
def compile? (flags : Flags) (source : String) : Option Pattern :=
  (readExpr? flags source).map (⟨source, ·⟩)

/-- Whether a text holds a match. -/
def isMatch (p : Pattern) (s : String) : Bool :=
  p.expr.isMatch s.toList

end Pattern

end RecordQuery
