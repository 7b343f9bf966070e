/-!
# Sets of characters as ranges of code points

A `RangeTable` lists the ranges of a set of characters in ascending order. A `CaseRun` describes
characters that are mapped to other ones by one distance.
-/

namespace RecordQuery.Text

/-- Ranges of code points, first and last included. -/
abbrev RangeTable := List (Nat × Nat)

/-- Whether a character lies in one of the ranges. -/
def RangeTable.contains (table : RangeTable) (c : Char) : Bool :=
  table.any fun (low, high) => low ≤ c.toNat && c.toNat ≤ high

/-- Every `step`-th code point from `low` to `high`, each mapped to the one at distance `delta`. -/
structure CaseRun where
  low : Nat
  high : Nat
  step : Nat
  delta : Int

namespace CaseRun

/-- Whether the run maps the code point. -/
def covers (run : CaseRun) (code : Nat) : Bool :=
  run.low ≤ code && code ≤ run.high && (code - run.low) % run.step = 0

/-- What the run maps a code point that it covers to. -/
def apply (run : CaseRun) (code : Nat) : Nat :=
  (code + run.delta).toNat

/-- The code point that the run maps to `code`. -/
def preimage? (run : CaseRun) (code : Nat) : Option Nat :=
  let source := (code - run.delta).toNat
  if run.covers source && run.apply source = code then some source else none

/-- The code points that the run maps. -/
def sources (run : CaseRun) : RangeTable :=
  if run.step = 1 then [(run.low, run.high)]
  else
    (List.range ((run.high - run.low) / run.step + 1)).map fun i =>
      (run.low + i * run.step, run.low + i * run.step)

/-- The code points that the run maps to. -/
def targets (run : CaseRun) : RangeTable :=
  run.sources.map fun (low, high) => (run.apply low, run.apply high)

end CaseRun

/-- The code point that a character is mapped to; one outside every run stays as it is. -/
def mapCase (runs : List CaseRun) (code : Nat) : Nat :=
  match runs.find? (·.covers code) with
  | some run => run.apply code
  | none => code

end RecordQuery.Text
