/-! # The double nearest to a decimal

A decimal `± d · 10^k` is read as the double nearest to it, a tie going to the double with an
even significand; beyond the largest finite double it is an infinity, and below half the
smallest positive double it is a zero of its sign.

The value is the exact ratio `num / den`. The binary exponent `e` of its last significand place
is chosen so that `num / (den · 2^e)` lies in `[2^52, 2^53)`, but not below `-1074`, where the
doubles become subnormal; the quotient is then rounded once.
-/

namespace ConnectorPlane

namespace Decimal

/-- The quotient `num / (den · 2^e)` as a floor and a remainder over its divisor. -/
def scaledDiv (num den : Nat) (e : Int) : Nat × Nat × Nat :=
  let n := if e ≥ 0 then num else num * Nat.pow 2 (-e).toNat
  let d := if e ≥ 0 then den * Nat.pow 2 e.toNat else den
  (n / d, n % d, d)

/-- The bits of the positive double nearest to `num / den`, ties to even; `den > 0`. -/
def nearestRatioBits (num den : Nat) : UInt64 :=
  if num = 0 then 0
  else
    let l : Int := (num.log2 : Int) - den.log2
    let e0 := l - 52
    let e1 := if (scaledDiv num den e0).1 < Nat.pow 2 52 then e0 - 1 else e0
    let e := if e1 < -1074 then -1074 else e1
    let (q, r, d) := scaledDiv num den e
    let q := if 2 * r > d ∨ (2 * r = d ∧ q % 2 = 1) then q + 1 else q
    let (q, e) := if q = Nat.pow 2 53 then (Nat.pow 2 52, e + 1) else (q, e)
    if e > 971 then 0x7FF0000000000000
    else if q < Nat.pow 2 52 then q.toUInt64
    else ((e + 1075).toNat * Nat.pow 2 52 + (q - Nat.pow 2 52)).toUInt64

/-- The number of decimal digits of a positive number. -/
def digitCount (d : Nat) : Nat := (toString d).length

/-- The bits of the double nearest to `± d · 10^k`. -/
def nearestBits (negative : Bool) (d : Nat) (k : Int) : UInt64 :=
  let sign : UInt64 := if negative then 0x8000000000000000 else 0
  if d = 0 then sign
  else
    let size := (digitCount d : Int) + k
    let magnitude : UInt64 :=
      if size > 310 then 0x7FF0000000000000
      else if size < -330 then 0
      else if k ≥ 0 then nearestRatioBits (d * Nat.pow 10 k.toNat) 1
      else nearestRatioBits d (Nat.pow 10 (-k).toNat)
    sign ||| magnitude

end Decimal

end ConnectorPlane
