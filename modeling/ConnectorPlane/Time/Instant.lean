/-! # Instants on the UTC time line

An instant is a day counted from 1970-01-01, a second of that day and a fraction in
nanoseconds. A leap second is the fraction running past one second during the last second of a
minute, so `23:59:60.5` is second `86399` of its day with fraction `1.5 · 10^9`. Instants
order by day, then second, then fraction, which puts a leap second after the second it
extends and before the next minute.

Dates are proleptic Gregorian; years run from -262144 to 262143. Arithmetic on the three fields
gives a `Moment`, which may lie outside that range or outside the bounds of its fields; an
`Instant` is a moment the calendar supports (`Moment.isValid`) and carries that fact.

* `Instant.ofUnix` reads seconds and nanoseconds since the epoch, refusing what has no date.
* `Instant.text` writes `YYYY-MM-DDTHH:MM:SS.nnnnnnnnnZ`: four digits for years 0 to 9999,
  otherwise a sign and at least four digits; a leap second is second `60`.
-/

namespace ConnectorPlane

/-- A calendar date. -/
structure CivilDate where
  year : Int
  month : Nat
  day : Nat
deriving DecidableEq, Repr

/-- The fields of a point on the UTC time line, as arithmetic on them leaves them. -/
structure Moment where
  /-- Days since 1970-01-01. -/
  day : Int
  /-- Seconds into the day, below 86400. -/
  second : Nat
  /-- Nanoseconds into the second; from `10^9` on only in a minute's last second. -/
  nano : Nat
deriving DecidableEq, Repr

namespace CivilDate

/-- Whether a year has a 29th of February. -/
def isLeapYear (y : Int) : Bool := (y % 4 = 0 && y % 100 ≠ 0) || y % 400 = 0

/-- The number of days in a month. -/
def monthLength (y : Int) (m : Nat) : Nat :=
  match m with
  | 2 => if isLeapYear y then 29 else 28
  | 4 | 6 | 9 | 11 => 30
  | _ => 31

/-- Whether the date exists and lies within the supported years. -/
def isValid (d : CivilDate) : Bool :=
  -262144 ≤ d.year && d.year ≤ 262143 && 1 ≤ d.month && d.month ≤ 12 && 1 ≤ d.day &&
    d.day ≤ monthLength d.year d.month

/-- Days from 1970-01-01 to a date. -/
def toDays (d : CivilDate) : Int :=
  let y : Int := if d.month ≤ 2 then d.year - 1 else d.year
  let era := y.fdiv 400
  let yoe := y - era * 400
  let m : Int := d.month
  let mp := if m > 2 then m - 3 else m + 9
  let doy := (153 * mp + 2) / 5 + d.day - 1
  let doe := yoe * 365 + yoe / 4 - yoe / 100 + doy
  era * 146097 + doe - 719468

/-- The date a number of days after 1970-01-01. -/
def ofDays (z : Int) : CivilDate :=
  let z := z + 719468
  let era := z.fdiv 146097
  let doe := z - era * 146097
  let yoe := (doe - doe / 1460 + doe / 36524 - doe / 146096) / 365
  let y := yoe + era * 400
  let doy := doe - (365 * yoe + yoe / 4 - yoe / 100)
  let mp := (5 * doy + 2) / 153
  let d := doy - (153 * mp + 2) / 5 + 1
  let m := if mp < 10 then mp + 3 else mp - 9
  ⟨if m ≤ 2 then y + 1 else y, m.toNat, d.toNat⟩

end CivilDate

namespace Moment

/-- The calendar date of a moment. -/
def date (m : Moment) : CivilDate := CivilDate.ofDays m.day

/-- Whether the fields describe a point the calendar supports. -/
def isValid (m : Moment) : Bool :=
  m.second < 86400 && m.nano < 2000000000 && (m.nano < 1000000000 || m.second % 60 = 59) &&
    m.date.isValid

/-- Shifts a moment by whole seconds, keeping its fraction. -/
def shift (m : Moment) (seconds : Int) : Moment :=
  let s := (m.second : Int) + seconds
  ⟨m.day + s.fdiv 86400, (s.fmod 86400).toNat, m.nano⟩

end Moment

/-- A point on the UTC time line: a moment the calendar supports. -/
structure Instant extends Moment where
  valid : toMoment.isValid = true
deriving DecidableEq, Repr

namespace Instant

/-- 1970-01-01T00:00:00Z. -/
def epoch : Instant := ⟨⟨0, 0, 0⟩, by decide⟩

instance : Inhabited Instant := ⟨epoch⟩

/-- The instant of a day, a second of it and a fraction; parts the calendar does not support
give the epoch. -/
def ofParts (day : Int) (second nano : Nat) : Instant :=
  let m : Moment := ⟨day, second, nano⟩
  if h : m.isValid then ⟨m, h⟩ else epoch

/-- The order of instants: day, then second, then fraction. -/
def lt (a b : Instant) : Bool :=
  a.day < b.day || (a.day = b.day && (a.second < b.second || (a.second = b.second && a.nano < b.nano)))

/-- The instant `secs` seconds and `nanos` nanoseconds after the epoch; a fraction of a second
or more is allowed only at a minute's last second, as a leap second. -/
def ofUnix (secs : Int) (nanos : Nat) : Option Instant :=
  let m : Moment := ⟨secs.fdiv 86400, (secs.fmod 86400).toNat, nanos⟩
  if h : m.isValid then some ⟨m, h⟩ else none

/-- Seconds since the epoch, a leap second counting as the second it extends. -/
def unixSeconds (t : Instant) : Int := t.day * 86400 + t.second

/-- `n` as decimal digits, zero-padded to `width`. -/
def pad (width : Nat) (n : Nat) : String :=
  let s := toString n
  String.ofList (List.replicate (width - s.length) '0') ++ s

/-- Four digits for years 0 to 9999, otherwise a sign and at least four digits. -/
def yearText (y : Int) : String :=
  if 0 ≤ y ∧ y ≤ 9999 then pad 4 y.toNat
  else (if y < 0 then "-" else "+") ++ pad 4 y.natAbs

/-- Date and time of day up to the seconds, a leap second written as `60`. -/
def stem (t : Instant) : String :=
  let d := t.date
  let sec := t.second % 60 + t.nano / 1000000000
  yearText d.year ++ "-" ++ pad 2 d.month ++ "-" ++ pad 2 d.day ++ "T" ++
    pad 2 (t.second / 3600) ++ ":" ++ pad 2 (t.second / 60 % 60) ++ ":" ++ pad 2 sec

/-- `YYYY-MM-DDTHH:MM:SS.nnnnnnnnnZ`. -/
def text (t : Instant) : String :=
  stem t ++ "." ++ pad 9 (t.nano % 1000000000) ++ "Z"

/-- The fraction of a second with the fewest of no, three, six or nine digits that keep it. -/
def fraction (t : Instant) : String :=
  let n := t.nano % 1000000000
  if n = 0 then ""
  else if n % 1000000 = 0 then "." ++ pad 3 (n / 1000000)
  else if n % 1000 = 0 then "." ++ pad 6 (n / 1000)
  else "." ++ pad 9 n

/-- RFC 3339 with the shortest fraction (`fraction`) and `+00:00`. -/
def textAuto (t : Instant) : String := stem t ++ fraction t ++ "+00:00"

/-- RFC 3339 with the shortest fraction (`fraction`) and `Z`. -/
def textAutoZ (t : Instant) : String := stem t ++ fraction t ++ "Z"

/-- Nanoseconds since the epoch. -/
def unixNanos (t : Instant) : Int := t.unixSeconds * 1000000000 + t.nano

/-- Milliseconds since the epoch. -/
def unixMillis (t : Instant) : Int := t.unixNanos.fdiv 1000000

end Instant

end ConnectorPlane
