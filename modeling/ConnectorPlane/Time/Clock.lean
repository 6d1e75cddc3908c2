import ConnectorPlane.Time.Instant

/-! # The wall clock

Times that the program takes from the wall clock come from a `Clock`: a start instant and the
number of readings taken so far. Each reading is one microsecond after the one before, so
readings are distinct and increasing, and every one lies in the window from the start to the
latest reading; `Clock.isRecent` tells such times apart from times given as input.
-/

namespace ConnectorPlane

/-- A clock that moves forward by one microsecond per reading. -/
structure Clock where
  start : Instant
  readings : Nat := 0
deriving Repr, Inhabited

namespace Instant

/-- The last instant the calendar supports, +262143-12-31T23:59:59.999999999Z. -/
def last : Instant := ⟨⟨CivilDate.toDays ⟨262143, 12, 31⟩, 86399, 999999999⟩, by decide⟩

/-- The instant `n` nanoseconds later, a leap second folded into the next second; the clock
stops at the last instant the calendar supports. -/
def addNanos (t : Instant) (n : Nat) : Instant :=
  let total := t.nano + n
  let secs := (t.second : Int) + (total / 1000000000 : Nat)
  let m : Moment := ⟨t.day + secs.fdiv 86400, (secs.fmod 86400).toNat, total % 1000000000⟩
  if h : m.isValid then ⟨m, h⟩ else last

/-- Whether `a` is not after `b`. -/
def le (a b : Instant) : Bool := !(b.lt a)

end Instant

namespace Clock

/-- A clock started at 2026-06-01T00:00:00Z. -/
def initial : Clock := ⟨Instant.ofParts 20605 0 0, 0⟩

/-- The instant of the latest reading (the start before any). -/
def current (c : Clock) : Instant := c.start.addNanos (1000 * c.readings)

/-- Takes a reading: the next instant, and the clock after it. -/
def read (c : Clock) : Instant × Clock :=
  let c' := { c with readings := c.readings + 1 }
  (c'.current, c')

/-- Whether an instant lies between the start and the latest reading. -/
def isRecent (c : Clock) (t : Instant) : Bool := c.start.le t && t.le c.current

end Clock

end ConnectorPlane
