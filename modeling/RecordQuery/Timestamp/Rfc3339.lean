/-!
# RFC 3339 date and time

`Rfc3339.millis?` reads a date and time with its offset from UTC as milliseconds since the start of
1970. A space may stand for the `T`, `T` and `Z` may be lower-case and the minus of an offset may be
the minus sign U+2212. The second 60 is read anywhere as the second after 59, digits past the
milliseconds are dropped, and an offset is below 24 hours.
-/

namespace RecordQuery.Rfc3339

def isLeapYear (year : Nat) : Bool :=
  year % 4 = 0 && (year % 100 != 0 || year % 400 = 0)

def daysInMonth (year month : Nat) : Nat :=
  match month with
  | 2 => if isLeapYear year then 29 else 28
  | 4 | 6 | 9 | 11 => 30
  | _ => 31

/-- Days from the start of year 0 to the start of `year`: 365 for each year between and one more
for each leap year. -/
def daysBeforeYear (year : Nat) : Nat :=
  365 * year + (year + 3) / 4 - (year + 99) / 100 + (year + 399) / 400

/-- Days from the start of the year to the start of the month. -/
def daysBeforeMonth (year month : Nat) : Nat :=
  ((List.range month).drop 1).foldl (fun days m => days + daysInMonth year m) 0

/-- Days from the start of 1970 to a date. -/
def dayNumber (year month day : Nat) : Int :=
  (daysBeforeYear year + daysBeforeMonth year month + day : Int) - 1 - daysBeforeYear 1970

/-- The number that exactly `count` decimal digits spell, after `acc`, and what follows. -/
def digits? : (count acc : Nat) → List Char → Option (Nat × List Char)
  | 0, acc, s => some (acc, s)
  | _ + 1, _, [] => none
  | count + 1, acc, c :: rest =>
    if c.isDigit then digits? count (10 * acc + (c.toNat - 48)) rest else none

/-- What follows the character `c`. -/
def after? (c : Char) : List Char → Option (List Char)
  | [] => none
  | d :: rest => if d = c then some rest else none

/-- The milliseconds of a fraction of a second, if one follows, and what follows it. -/
def fraction? : List Char → Option (Nat × List Char)
  | '.' :: rest =>
    let digits := rest.takeWhile Char.isDigit
    -- filled up to milliseconds, or cut to them
    let millis := (digits ++ ['0', '0', '0']).take 3
    if digits.isEmpty then none
    else (digits? 3 0 millis).map fun (n, _) => (n, rest.dropWhile Char.isDigit)
  | s => some (0, s)

/-- The minutes by which local time is ahead of UTC; nothing may follow them. -/
def offset? (s : List Char) : Option Int := do
  let ahead (sign : Int) (s : List Char) : Option Int := do
    let (hours, s) ← digits? 2 0 s
    let s ← after? ':' s
    let (minutes, s) ← digits? 2 0 s
    if s.isEmpty && hours < 24 && minutes < 60 then some (sign * (60 * hours + minutes)) else none
  match s with
  | ['Z'] | ['z'] => some 0
  | '+' :: rest => ahead 1 rest
  | '-' :: rest | '−' :: rest => ahead (-1) rest
  | _ => none

/-- Milliseconds since the start of 1970 in UTC. -/
def millis? (s : List Char) : Option Int := do
  let (year, s) ← digits? 4 0 s
  let (month, s) ← digits? 2 0 (← after? '-' s)
  let (day, s) ← digits? 2 0 (← after? '-' s)
  let s ← match s with
    | c :: rest => if c = 'T' || c = 't' || c = ' ' then some rest else none
    | [] => none
  let (hour, s) ← digits? 2 0 s
  let (minute, s) ← digits? 2 0 (← after? ':' s)
  let (second, s) ← digits? 2 0 (← after? ':' s)
  let (millis, s) ← fraction? s
  let offset ← offset? s
  if 1 ≤ month ∧ month ≤ 12 ∧ 1 ≤ day ∧ day ≤ daysInMonth year month ∧
      hour < 24 ∧ minute < 60 ∧ second ≤ 60 then
    let minutes := 24 * 60 * dayNumber year month day + 60 * hour + minute - offset
    some (1000 * (60 * minutes + second) + millis)
  else none

end RecordQuery.Rfc3339
