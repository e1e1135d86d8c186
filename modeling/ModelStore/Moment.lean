/-!
# Points in time

A moment is a date and a time of day, to the microsecond, read in a zone at a fixed distance from
universal time or in no zone at all. A moment without a zone is taken for universal time when an instant
is needed, but it is never the same moment as one with a zone, even of the same instant.
-/

namespace ModelStore

/-- A civil date and time. `offset` is the zone's distance from universal time in microseconds. -/
structure Moment where
  year : Nat
  month : Nat
  day : Nat
  hour : Nat
  minute : Nat
  second : Nat
  microsecond : Nat
  offset : Option Int
  deriving DecidableEq, Repr, Inhabited

namespace Moment

/-! ## The calendar -/

/-- Days from 1970-01-01 to a date, counted in years that begin in March, so that the leap day is the
last of its year. -/
def daysSinceEpoch (year month day : Nat) : Int :=
  let y : Int := if month ≤ 2 then (year : Int) - 1 else year
  let era := y.fdiv 400
  let yearOfEra := y - era * 400
  let monthFromMarch : Int := if month ≤ 2 then (month : Int) + 9 else (month : Int) - 3
  let dayOfYear := (153 * monthFromMarch + 2) / 5 + (day : Int) - 1
  let dayOfEra := yearOfEra * 365 + yearOfEra / 4 - yearOfEra / 100 + dayOfYear
  era * 146097 + dayOfEra - 719468

/-- Microseconds from the epoch as the clock on the wall shows it. -/
def wallClock (t : Moment) : Int :=
  ((daysSinceEpoch t.year t.month t.day * 24 + t.hour) * 60 + t.minute) * 60000000
    + (t.second * 1000000 + t.microsecond : Nat)

/-- Microseconds from the epoch in universal time. -/
def instant (t : Moment) : Int := t.wallClock - t.offset.getD 0

/-- Two moments are the same if both have a zone and are one instant, or neither has and the clocks on
the wall agree. -/
def same (s t : Moment) : Bool :=
  match s.offset, t.offset with
  | some _, some _ => s.instant == t.instant
  | none, none => s.wallClock == t.wallClock
  | _, _ => false

/-! ## Text -/

/-- A number with leading zeros up to a width. -/
def padded (width n : Nat) : List Char :=
  let digits := Nat.toDigits 10 n
  List.replicate (width - digits.length) '0' ++ digits

/-- Hours and minutes, with seconds and microseconds only where they are not zero. -/
def offsetChars (offset : Int) : List Char :=
  let us := offset.natAbs
  let seconds := us / 1000000 % 60
  let fraction := us % 1000000
  (if offset < 0 then '-' else '+') :: padded 2 (us / 3600000000) ++ ':' :: padded 2 (us / 60000000 % 60)
    ++ (if seconds = 0 ∧ fraction = 0 then [] else ':' :: padded 2 seconds)
    ++ (if fraction = 0 then [] else '.' :: padded 6 fraction)

/-- Date, a separator, time of day and zone. -/
def text (separator : Char) (t : Moment) : String := String.ofList <|
  padded 4 t.year ++ '-' :: padded 2 t.month ++ '-' :: padded 2 t.day
    ++ separator :: padded 2 t.hour ++ ':' :: padded 2 t.minute ++ ':' :: padded 2 t.second
    ++ (if t.microsecond = 0 then [] else '.' :: padded 6 t.microsecond)
    ++ (match t.offset with | none => [] | some offset => offsetChars offset)

/-- A number of exactly `width` digits at the front, and what follows it. -/
def number? (width : Nat) (cs : List Char) : Option (Nat × List Char) :=
  let digits := cs.take width
  if digits.length = width ∧ digits.all Char.isDigit then
    some (digits.foldl (fun n c => 10 * n + (c.toNat - 48)) 0, cs.drop width)
  else none

/-- The given character at the front, and what follows it. -/
def mark? (c : Char) : List Char → Option (List Char)
  | d :: rest => if c = d then some rest else none
  | [] => none

/-- `:` and two digits, zero if there is none. -/
def seconds? (cs : List Char) : Option (Nat × List Char) :=
  match mark? ':' cs with
  | some rest => number? 2 rest
  | none => some (0, cs)

/-- `.` and six digits, zero if there is none. -/
def fraction? (cs : List Char) : Option (Nat × List Char) :=
  match mark? '.' cs with
  | some rest => number? 6 rest
  | none => some (0, cs)

/-- The zone, up to the end. -/
def offset? (cs : List Char) : Option (Option Int) :=
  match cs with
  | [] => some none
  | sign :: rest => do
    let negative ← if sign = '-' then some true else if sign = '+' then some false else none
    let (hour, rest) ← number? 2 rest
    let rest ← mark? ':' rest
    let (minute, rest) ← number? 2 rest
    let (second, rest) ← seconds? rest
    let (fraction, rest) ← fraction? rest
    if rest.isEmpty then
      let us : Int := (((hour * 60 + minute) * 60 + second) * 1000000 + fraction : Nat)
      some (some (if negative then -us else us))
    else none

/-- Reads what `text` writes. -/
def read? (separator : Char) (s : String) : Option Moment := do
  let (year, rest) ← number? 4 s.toList
  let (month, rest) ← number? 2 (← mark? '-' rest)
  let (day, rest) ← number? 2 (← mark? '-' rest)
  let (hour, rest) ← number? 2 (← mark? separator rest)
  let (minute, rest) ← number? 2 (← mark? ':' rest)
  let (second, rest) ← seconds? rest
  let (microsecond, rest) ← fraction? rest
  let offset ← offset? rest
  some ⟨year, month, day, hour, minute, second, microsecond, offset⟩

end Moment
end ModelStore
