import ConnectorPlane.Time.Instant
import ConnectorPlane.Text.Blank

/-! # Reading RFC 3339 timestamps

Two readers of date-times with an offset, both giving the UTC instant.

* `Instant.parseStrict` takes exactly `YYYY-MM-DD`, a `T`, `t` or space, `hh:mm:ss`, an optional
  fraction of at least one digit (digits after the ninth are skipped), and `Z`, `z` or a signed
  `hh:mm` offset of at most 23:59; nothing may follow.
* `Instant.parseRelaxed` also allows blanks before each number and around the `-` and `:`
  separators, one to four year digits or a signed year of any length, one or two digits for the
  other fields, `UTC` in any case for the offset, an offset whose colon is missing or replaced
  by blanks, and trailing blanks.

Both accept second `60` as a leap second and a minus sign U+2212 in the offset. A local time is
moved to UTC by whole seconds; a leap second stays a leap second.

A refusal is a `TimeFault`, whose `text` is the reason a reader gives.
-/

namespace ConnectorPlane

/-- Why a timestamp was refused. -/
inductive TimeFault where
  /-- A field is outside its range. -/
  | outOfRange
  /-- The fields name no instant. -/
  | impossible
  /-- A field is missing. -/
  | notEnough
  /-- An unexpected character. -/
  | invalid
  /-- The text ends early. -/
  | tooShort
  /-- Text is left over. -/
  | tooLong
deriving DecidableEq, Repr

/-- The reason a reader gives for a refused timestamp. -/
def TimeFault.text : TimeFault → String
  | .outOfRange => "input is out of range"
  | .impossible => "no possible date and time matching input"
  | .notEnough => "input is not enough for unique date and time"
  | .invalid => "input contains invalid characters"
  | .tooShort => "premature end of input"
  | .tooLong => "trailing input"

namespace Rfc3339

/-- The fields of a date-time as written, before any check across fields. -/
structure Fields where
  year : Int
  month : Nat
  day : Nat
  hour : Nat
  minute : Nat
  second : Nat
  nano : Nat
  /-- East of UTC, in seconds. -/
  offset : Int

/-- The largest value of a signed 64-bit word. -/
def wordMax : Int := 9223372036854775807

/-- Reads `min` to `max` ASCII digits, refusing a value beyond a signed 64-bit word. -/
def number (cs : List Char) (min max : Nat) : Except TimeFault (Int × List Char) :=
  if cs.isEmpty && min > 0 then .error .tooShort else go cs 0 0
where
  go : List Char → Nat → Int → Except TimeFault (Int × List Char)
    | [], _, n => .ok (n, [])
    | c :: rest, i, n =>
      if i ≥ max then .ok (n, c :: rest)
      else if c.isDigit then
        let n' := n * 10 + (c.toNat - 48)
        if n' > wordMax then .error .outOfRange else go rest (i + 1) n'
      else if i < min then .error .invalid
      else .ok (n, c :: rest)

/-- Reads one expected character. -/
def expect (cs : List Char) (c : Char) : Except TimeFault (List Char) :=
  match cs with
  | [] => .error .tooShort
  | d :: rest => if d = c then .ok rest else .error .invalid

/-- Reads a fraction after its point: one to nine digits scaled to nanoseconds; further digits
are skipped. -/
def fraction (cs : List Char) : Except TimeFault (Nat × List Char) := do
  let (v, rest) ← number cs 1 9
  let used := cs.length - rest.length
  pure (v.toNat * Nat.pow 10 (9 - used), rest.dropWhile Char.isDigit)

/-- Whether a text is shorter than two bytes. -/
def shortOfTwo : List Char → Bool
  | [] => true
  | [c] => c.toNat < 128
  | _ => false

/-- Reads `Z`, `z` or a signed `hh` and `mm` with `sep` consuming what stands between them;
gives seconds east of UTC. -/
def offset (cs : List Char) (sep : List Char → Except TimeFault (List Char)) :
    Except TimeFault (Int × List Char) :=
  match cs with
  | [] => .error .tooShort
  | c :: rest =>
    if c = 'Z' ∨ c = 'z' then .ok (0, rest)
    else
      let sign : Option Bool :=
        if c = '+' then some false else if c = '-' ∨ c.toNat = 0x2212 then some true else none
      match sign with
      | none => .error .invalid
      | some negative =>
        if shortOfTwo rest then .error .tooShort
        else match rest with
          | h1 :: h2 :: rest =>
            if !(h1.isDigit && h2.isDigit) then .error .invalid
            else do
              let hours := (h1.toNat - 48) * 10 + (h2.toNat - 48)
              let rest ← sep rest
              if shortOfTwo rest then .error .tooShort
              else match rest with
                | m1 :: m2 :: rest =>
                  if m1.isDigit && m2.isDigit then
                    if m1.toNat > 53 then .error .outOfRange
                    else
                      let secs : Int := hours * 3600 + ((m1.toNat - 48) * 10 + (m2.toNat - 48)) * 60
                      .ok (if negative then -secs else secs, rest)
                  else .error .invalid
                | _ => .error .tooShort
          | _ => .error .tooShort

/-- Checks a field against its range. -/
def inRange (v : Int) (lo hi : Int) : Except TimeFault Nat :=
  if lo ≤ v ∧ v ≤ hi then .ok v.toNat else .error .outOfRange

/-- Reads the date-time separator `T`, `t` or a space. -/
def dateTimeSeparator (cs : List Char) : Except TimeFault (List Char) :=
  match cs with
  | [] => .error .tooShort
  | c :: rest => if c = 'T' ∨ c = 't' ∨ c = ' ' then .ok rest else .error .invalid

/-- The strict grammar. -/
def strictFields (cs : List Char) : Except TimeFault (Fields × List Char) := do
  let (year, cs) ← number cs 4 4
  let cs ← expect cs '-'
  let (month, cs) ← number cs 2 2
  let month ← inRange month 1 12
  let cs ← expect cs '-'
  let (day, cs) ← number cs 2 2
  let day ← inRange day 1 31
  let cs ← dateTimeSeparator cs
  let (hour, cs) ← number cs 2 2
  let hour ← inRange hour 0 23
  let cs ← expect cs ':'
  let (minute, cs) ← number cs 2 2
  let minute ← inRange minute 0 59
  let cs ← expect cs ':'
  let (second, cs) ← number cs 2 2
  let second ← inRange second 0 60
  let (nano, cs) ← match cs with
    | '.' :: rest => fraction rest
    | _ => pure (0, cs)
  let (off, cs) ← offset cs (fun r => expect r ':')
  if off < -(23 * 3600 + 59 * 60) ∨ off > 23 * 3600 + 59 * 60 then throw .outOfRange
  pure (⟨year, month, day, hour, minute, second, nano, off⟩, cs)

/-- A number after optional blanks; a year may carry a sign and then any number of digits. -/
def relaxedNumber (cs : List Char) (width : Nat) (signed : Bool) :
    Except TimeFault (Int × List Char) :=
  let cs := Blank.trimStart cs
  match signed, cs with
  | true, '-' :: rest => do
    let (v, rest) ← number rest 1 rest.length
    pure (-v, rest)
  | true, '+' :: rest => number rest 1 rest.length
  | _, _ => number cs 1 width

/-- A separator literal after optional blanks. -/
def relaxedLiteral (cs : List Char) (c : Char) : Except TimeFault (List Char) :=
  expect (Blank.trimStart cs) c

/-- The relaxed grammar. -/
def relaxedFields (cs : List Char) : Except TimeFault (Fields × List Char) := do
  let (year, cs) ← relaxedNumber cs 4 true
  if year < -2147483648 ∨ year > 2147483647 then throw .outOfRange
  let cs ← relaxedLiteral cs '-'
  let (month, cs) ← relaxedNumber cs 2 false
  let month ← inRange month 1 12
  let cs ← relaxedLiteral cs '-'
  let (day, cs) ← relaxedNumber cs 2 false
  let day ← inRange day 1 31
  let cs ← dateTimeSeparator cs
  let (hour, cs) ← relaxedNumber cs 2 false
  let hour ← inRange hour 0 23
  let cs ← relaxedLiteral cs ':'
  let (minute, cs) ← relaxedNumber cs 2 false
  let minute ← inRange minute 0 59
  let cs ← relaxedLiteral cs ':'
  let (second, cs) ← relaxedNumber cs 2 false
  let second ← inRange second 0 60
  let (nano, cs) ← match cs with
    | '.' :: rest => fraction rest
    | _ => pure (0, cs)
  let cs := Blank.trimStart cs
  let isUtc : Bool := match cs with
    | u :: t :: c :: _ => u.toLower = 'u' && t.toLower = 't' && c.toLower = 'c'
    | _ => false
  let (off, cs) ← if isUtc then pure (0, cs.drop 3)
    else offset cs (fun r => .ok (r.dropWhile (fun c => c = ':' || Blank.isSpace c)))
  pure (⟨year, month, day, hour, minute, second, nano, off⟩, cs)

/-- The UTC instant of checked fields. -/
def Fields.toInstant (f : Fields) : Except TimeFault Instant :=
  let date : CivilDate := ⟨f.year, f.month, f.day⟩
  if !date.isValid then .error .outOfRange
  else if f.offset ≤ -86400 ∨ f.offset ≥ 86400 then .error .outOfRange
  else
    let (sec, nano) := if f.second = 60 then (59, f.nano + 1000000000) else (f.second, f.nano)
    let wall : Moment := ⟨date.toDays, f.hour * 3600 + f.minute * 60 + sec, nano⟩
    let t := wall.shift (-f.offset)
    if h : t.isValid then .ok ⟨t, h⟩ else .error .impossible

end Rfc3339

namespace Instant

/-- Reads a strict RFC 3339 timestamp. -/
def parseStrict (s : String) : Except TimeFault Instant := do
  let (f, rest) ← Rfc3339.strictFields s.toList
  if !rest.isEmpty then throw .tooLong
  f.toInstant

/-- Reads a timestamp by the relaxed grammar. -/
def parseRelaxed (s : String) : Except TimeFault Instant := do
  let (f, rest) ← Rfc3339.relaxedFields s.toList
  if !(Blank.trimStart rest).isEmpty then throw .tooLong
  f.toInstant

end Instant

end ConnectorPlane
