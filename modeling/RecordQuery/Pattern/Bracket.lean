import RecordQuery.Pattern.Escape

/-!
# Bracketed classes

A class in brackets holds characters, ranges, classes by name and further brackets, and set
operations between them. `bracketClass?` reads one from left to right, with what is still open on a
stack.
-/

namespace RecordQuery.Pattern

open Text

inductive SetOperator where
  | intersection
  | difference
  | symmetricDifference

/-- A class that has been read, and how deep brackets, rows of members and set operations are nested
in it. -/
structure Nested where
  cls : CharClass
  depth : Nat

/-- The members read so far at one level of a bracketed class. -/
structure Members where
  cls : CharClass := .empty
  count : Nat := 0
  depth : Nat := 0

/-- What encloses the part of a bracketed class that is being read. -/
inductive ClassFrame where
  /-- An opened bracket, with the members read before it at the level outside. -/
  | bracket (outer : Members) (negated : Bool)
  /-- A set operation and its left operand. -/
  | operation (operator : SetOperator) (left : Nested)

/-- One more member. -/
def Members.add (members : Members) (item : Nested) : Members where
  cls := .union members.cls item.cls
  count := members.count + 1
  depth := max members.depth item.depth

/-- The members together. Several of them nest one level deeper than one alone. -/
def Members.join (members : Members) : Nested where
  cls := members.cls
  depth := if members.count ≤ 1 then members.depth else members.depth + 1

def SetOperator.apply (flags : Flags) (operator : SetOperator) (left right : Nested) : Nested where
  cls := match operator with
    | .intersection => .intersection (flags.fold left.cls) (flags.fold right.cls)
    | .difference => .difference (flags.fold left.cls) (flags.fold right.cls)
    | .symmetricDifference => .symmetricDifference (flags.fold left.cls) (flags.fold right.cls)
  depth := max left.depth right.depth + 1

/-- The result of the set operation that waits for `right`, if one does, and the frames around. -/
def finishOperation (flags : Flags) (right : Nested) :
    List ClassFrame → Nested × List ClassFrame
  | .operation operator left :: stack => (operator.apply flags left right, stack)
  | stack => (right, stack)

/-- The characters of a class such as `alpha`, which is named between colons. -/
def asciiClass? (name : String) : Option CharClass :=
  let digit : CharClass := .range 0x30 0x39
  let upper : CharClass := .range 0x41 0x5a
  let lower : CharClass := .range 0x61 0x7a
  match name with
  | "alnum" => some (.unions [digit, upper, lower])
  | "alpha" => some (.union upper lower)
  | "ascii" => some (.range 0 0x7f)
  | "blank" => some (.union (.single '\t') (.single ' '))
  | "cntrl" => some (.union (.range 0 0x1f) (.single (Char.ofNat 0x7f)))
  | "digit" => some digit
  | "graph" => some (.range 0x21 0x7e)
  | "lower" => some lower
  | "print" => some (.range 0x20 0x7e)
  | "punct" => some (.unions [.range 0x21 0x2f, .range 0x3a 0x40, .range 0x5b 0x60,
      .range 0x7b 0x7e])
  | "space" => some (.union (.range 9 13) (.single ' '))
  | "upper" => some upper
  | "word" => some (.unions [digit, upper, lower, .single '_'])
  | "xdigit" => some (.unions [digit, .range 0x41 0x46, .range 0x61 0x66])
  | _ => none

/-- The name between `[:` and `:]` after the opening bracket, whether a caret stands before it, its
class and what follows. Anything else is no such class and is read as an inner bracket. -/
def asciiItem? (s : List Char) : Option (Bool × CharClass × List Char) := do
  match s with
  | ':' :: rest =>
    let (negated, rest) := match rest with
      | '^' :: rest => (true, rest)
      | rest => (false, rest)
    let name := rest.takeWhile (· != ':')
    match rest.dropWhile (· != ':') with
    | ':' :: ']' :: after => return (negated, ← asciiClass? (String.ofList name), after)
    | _ => none
  | _ => none

/-- One element of a bracketed class: an escape or a character that stands for itself. -/
def classPrimitive? (flags : Flags) : List Char → Option (Primitive × List Char)
  | [] => none
  | '\\' :: rest => escape? flags rest
  | c :: rest => some (.literal c false, rest)

/-- The code of a character in a class. Without Unicode only ASCII characters have one. -/
def classCode? (flags : Flags) : Primitive → Option Nat
  | .literal c _ => if flags.unicode || c.toNat < 0x80 then some c.toNat else none
  | _ => none

/-- The next character that is no white space, if blanks are ignored. The mark that opens a comment
is passed over too, but the text of the comment is not. -/
def peek (flags : Flags) (s : List Char) : Option Char :=
  let isSpace (c : Char) : Bool := spaceRanges.contains c
  if flags.ignoreWhitespace then
    match s.dropWhile isSpace with
    | '#' :: rest => (rest.dropWhile isSpace).head?
    | rest => rest.head?
  else s.head?

/-- An element or a range of a bracketed class. A hyphen before the closing bracket or before
another hyphen makes no range. -/
def classItem? (flags : Flags) (s : List Char) : Option (CharClass × List Char) := do
  let (first, rest) ← classPrimitive? flags s
  let alone : Option CharClass := match first with
    | .literal .. => (classCode? flags first).map fun code => .range code code
    | .named cls => some cls
    | .dot | .assertion _ => none
  match flags.skip rest with
  | '-' :: after =>
    if peek flags after = some ']' || peek flags after = some '-' then
      return (← alone, '-' :: after)
    else
      let (last, rest) ← classPrimitive? flags (flags.skip after)
      let low ← classCode? flags first
      let high ← classCode? flags last
      if low ≤ high then return (.range low high, rest) else none
  | rest => return (← alone, rest)

/-- Hyphens at the start of a bracketed class stand for themselves. The count bounds them. -/
def leadingHyphens (flags : Flags) (members : Members) : Nat → List Char → Members × List Char
  | n + 1, '-' :: rest => leadingHyphens flags (members.add ⟨.single '-', 0⟩) n (flags.skip rest)
  | _, s => (members, s)

/-- What follows an opening bracket: whether the class is negated, and the members that are read
as themselves only at its start, hyphens or a closing bracket. -/
def openBracket (flags : Flags) (s : List Char) : Bool × Members × List Char :=
  let (negated, s) := match flags.skip s with
    | '^' :: rest => (true, flags.skip rest)
    | s => (false, s)
  match s with
  | ']' :: rest => (negated, Members.add {} ⟨.single ']', 0⟩, rest)
  | _ => (negated, leadingHyphens flags {} s.length s)

/-- Reads on inside a bracketed class. `members` are those read at the innermost level. -/
def readClass (flags : Flags) (stack : List ClassFrame) (members : Members) (s : List Char) :
    Option (Nested × List Char) :=
  let continueWith (stack : List ClassFrame) (members : Members) (rest : List Char) :
      Option (Nested × List Char) :=
    if rest.length < s.length then readClass flags stack members rest else none
  let setOperation (operator : SetOperator) (rest : List Char) : Option (Nested × List Char) :=
    let (left, stack) := finishOperation flags members.join stack
    continueWith (.operation operator left :: stack) {} rest
  match flags.skip s with
  | [] => none
  | ']' :: rest =>
    match finishOperation flags members.join stack with
    | (content, .bracket outer negated :: stack) =>
      match flags.close? negated content.cls, stack with
      | some cls, [] => some (⟨cls, content.depth + 1⟩, rest)
      | some cls, _ => continueWith stack (outer.add ⟨cls, content.depth + 1⟩) rest
      | none, _ => none
    | _ => none
  | '[' :: rest =>
    match asciiItem? rest with
    | some (negated, cls, after) =>
      match flags.close? negated cls with
      | some cls => continueWith stack (members.add ⟨cls, 0⟩) after
      | none => none
    | none =>
      let (negated, start, after) := openBracket flags rest
      continueWith (.bracket members negated :: stack) start after
  | '&' :: '&' :: rest => setOperation .intersection rest
  | '-' :: '-' :: rest => setOperation .difference rest
  | '~' :: '~' :: rest => setOperation .symmetricDifference rest
  | rest => do
    let (cls, after) ← classItem? flags rest
    continueWith stack (members.add ⟨cls, 0⟩) after
termination_by s.length

/-- The class after an opening bracket. -/
def bracketClass? (flags : Flags) (s : List Char) : Option (Nested × List Char) :=
  let (negated, start, rest) := openBracket flags s
  readClass flags [.bracket {} negated] start rest

end RecordQuery.Pattern
