import RecordQuery.Pattern.CharClass

/-!
# Flags of patterns

`Flags` say how the rest of a pattern is to be read: whether blanks and comments between its
elements are dropped, and what its classes and anchors stand for.
-/

namespace RecordQuery.Pattern

open Text

/-- How the rest of a pattern is to be read. -/
structure Flags where
  caseInsensitive : Bool := false
  multiLine : Bool := false
  dotMatchesNewLine : Bool := false
  swapGreed : Bool := false
  unicode : Bool := true
  crlf : Bool := false
  ignoreWhitespace : Bool := false

/-! ## Blanks -/

/-- Drops white space and comments, which run from `#` to the end of the line. -/
def dropBlanks : (inComment : Bool) → List Char → List Char
  | _, [] => []
  | true, c :: rest => if c = '\n' then dropBlanks false rest else dropBlanks true rest
  | false, c :: rest =>
    if spaceRanges.contains c then dropBlanks false rest
    else if c = '#' then dropBlanks true rest
    else c :: rest

/-- The longest run of characters that pass, and the rest. With `skipBlanks` white space and
comments between them are dropped. -/
def takeRun (skipBlanks : Bool) (pass : Char → Bool) :
    (inComment : Bool) → List Char → List Char × List Char
  | _, [] => ([], [])
  | true, c :: rest =>
    if c = '\n' then takeRun skipBlanks pass false rest else takeRun skipBlanks pass true rest
  | false, c :: rest =>
    if skipBlanks && spaceRanges.contains c then takeRun skipBlanks pass false rest
    else if skipBlanks && c = '#' then takeRun skipBlanks pass true rest
    else if pass c then
      let (run, after) := takeRun skipBlanks pass false rest
      (c :: run, after)
    else ([], c :: rest)

namespace Flags

/-- Drops blanks if they are to be ignored. -/
def skip (flags : Flags) (s : List Char) : List Char :=
  if flags.ignoreWhitespace then dropBlanks false s else s

/-- The longest run of characters that pass, and the rest, blanks dropped if they are to be
ignored. -/
def run (flags : Flags) (pass : Char → Bool) (s : List Char) : List Char × List Char :=
  takeRun flags.ignoreWhitespace pass false s

/-- The class as it is matched: with other cases if case is ignored. -/
def fold (flags : Flags) (cls : CharClass) : CharClass :=
  if !flags.caseInsensitive then cls
  else if flags.unicode then .folded cls
  else .foldedAscii cls

/-- The class as it is matched, or its complement; other cases are added before the complement is
taken. Without Unicode a class stands for bytes, and as its complement would match parts of
characters, it is refused. -/
def close? (flags : Flags) (negated : Bool) (cls : CharClass) : Option CharClass :=
  if !negated then some (flags.fold cls)
  else if flags.unicode then some (.complement (flags.fold cls))
  else none

end Flags

end RecordQuery.Pattern
