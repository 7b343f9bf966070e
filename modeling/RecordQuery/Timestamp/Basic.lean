import RecordQuery.Json.Basic
import RecordQuery.Timestamp.Rfc3339

/-!
# Instants

A `Timestamp` counts milliseconds since the start of 1970 in UTC. Attributes give one as such a
count or as RFC 3339 text.
-/

namespace RecordQuery

structure Timestamp where
  millis : Int64
deriving DecidableEq, Repr

namespace Timestamp

/-- The instant a number of seconds after the start of 1970, held within the 64-bit range. -/
def ofSeconds (seconds : Int64) : Timestamp :=
  ⟨Binary64.clampInt64 (1000 * seconds.toInt)⟩

/-- Whole seconds, a part of a second dropped toward the start of 1970. -/
def seconds (t : Timestamp) : Int64 :=
  .ofInt (t.millis.toInt.tdiv 1000)

def ofRfc3339? (s : String) : Option Timestamp :=
  (Rfc3339.millis? s.toList).map fun millis => ⟨.ofInt millis⟩

/-- The instant that an attribute gives: a count of milliseconds, a fraction dropped and a count
past 64 bits held within them, or RFC 3339 text. -/
def ofAttribute? : Json → Option Timestamp
  | .number n =>
    some ⟨n.toInt64?.getD n.toNumber.toBinary64.toInt64⟩
  | .string s => ofRfc3339? s
  | _ => none

/-- The order in time. -/
def compare (a b : Timestamp) : Ordering :=
  Ord.compare a.millis.toInt b.millis.toInt

end Timestamp

end RecordQuery
