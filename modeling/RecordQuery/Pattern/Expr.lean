import RecordQuery.Pattern.CharClass

/-!
# Regular expressions and where they match

`Expr` is the tree of a pattern. A set of positions in a text is a number whose bit `i` stands for
the place before the character `i`. `Expr.reach` takes the set of places where a match may begin to
the set of places where it may end, so that a text holds a match exactly if from the set of all
places some place is reached.
-/

namespace RecordQuery.Pattern

open Text

/-- A condition on a place between two characters. -/
inductive Assertion where
  | textStart
  | textEnd
  | lineStart
  | lineEnd
  /-- The line conditions when a carriage return ends a line too. -/
  | lineStartCrlf
  | lineEndCrlf
  | wordBoundary (unicode : Bool)
  | notWordBoundary (unicode : Bool)
  | wordStart (unicode : Bool)
  | wordEnd (unicode : Bool)
  | wordStartHalf (unicode : Bool)
  | wordEndHalf (unicode : Bool)

/-- A regular expression. Neither what a group captures nor greediness decides whether there is a
match. -/
inductive Expr where
  | empty
  | char (cls : CharClass)
  | assertion (a : Assertion)
  | seq (a b : Expr)
  | alt (a b : Expr)
  /-- At least `min` times, and at most `max` times if that is given. -/
  | times (e : Expr) (min : Nat) (max : Option Nat)
  | capture (e : Expr)

/-- Whether a character belongs to a word. -/
def isWord (unicode : Bool) (c : Char) : Bool :=
  if unicode then wordRanges.contains c else c.isAlphanum || c = '_'

namespace Assertion

/-- Whether the condition holds between the characters `before` and `after`, each `none` at its end
of the text. -/
def holds (a : Assertion) (before after : Option Char) : Bool :=
  match a with
  | .textStart => before.isNone
  | .textEnd => after.isNone
  | .lineStart => before.all (· = '\n')
  | .lineEnd => after.all (· = '\n')
  | .lineStartCrlf =>
    before.all (· = '\n') || (before = some '\r' && after != some '\n')
  | .lineEndCrlf =>
    after.all (· = '\r') || (after = some '\n' && before != some '\r')
  | .wordBoundary u => before.any (isWord u) != after.any (isWord u)
  | .notWordBoundary u => before.any (isWord u) == after.any (isWord u)
  | .wordStart u => !before.any (isWord u) && after.any (isWord u)
  | .wordEnd u => before.any (isWord u) && !after.any (isWord u)
  | .wordStartHalf u => !before.any (isWord u)
  | .wordEndHalf u => !after.any (isWord u)

end Assertion

/-- The set of the positions whose truth value is `true`, counted from zero. -/
def maskOf (bits : List Bool) : Nat :=
  bits.foldr (fun b mask => 2 * mask + b.toNat) 0

/-- The places of a text, each with the characters before and after it. -/
def places : Option Char → List Char → List (Option Char × Option Char)
  | before, [] => [(before, none)]
  | before, c :: rest => (before, some c) :: places (some c) rest

/-- The places before a member of the class. -/
def classMask (text : List Char) (cls : CharClass) : Nat :=
  maskOf (text.map cls.contains)

/-- The places where the condition holds. -/
def assertionMask (text : List Char) (a : Assertion) : Nat :=
  maskOf ((places none text).map fun (before, after) => a.holds before after)

/-- Applies `f` the given number of times. -/
def iterate (f : Nat → Nat) : Nat → Nat → Nat
  | 0, s => s
  | n + 1, s => iterate f n (f s)

namespace Expr

/-- The places where a match that begins in `starts` may end. A repetition need not be counted past
the number of places: by then every further round gives the same set. -/
def reach (text : List Char) : Expr → Nat → Nat
  | .empty, starts => starts
  | .char cls, starts => (starts &&& classMask text cls) <<< 1
  | .assertion a, starts => starts &&& assertionMask text a
  | .seq a b, starts => b.reach text (a.reach text starts)
  | .alt a b, starts => a.reach text starts ||| b.reach text starts
  | .times e low high, starts =>
    let rounds := text.length + 1
    let base := iterate (e.reach text) (min low rounds) starts
    let more := match high with
      | none => rounds
      | some high => min (high - low) rounds
    iterate (fun s => s ||| e.reach text s) more base
  | .capture e, starts => e.reach text starts

/-- Whether the text holds a match, wherever it begins and ends. -/
def isMatch (e : Expr) (text : List Char) : Bool :=
  e.reach text ((1 <<< (text.length + 1)) - 1) != 0

/-- About how many bytes the steps and branches of the expression take when its repetitions are
written out. -/
def size : Expr → Nat
  | .empty | .assertion _ => 32
  | .char cls => cls.size
  | .seq a b => a.size + b.size
  | .alt a b => a.size + b.size + 8
  | .times e low none => e.size * max 1 low + 40
  | .times e low (some high) => e.size * low + (e.size + 40) * (high - low) + 32
  | .capture e => e.size + 64

end Expr

end RecordQuery.Pattern
