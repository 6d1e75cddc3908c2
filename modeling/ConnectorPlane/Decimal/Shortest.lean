/-! # Shortest decimal digits of a double

A finite nonzero double `m · 2^e` is written with the fewest significant decimal digits that
read back as the same double. The doubles that read back to it form an interval around the
value, half a unit of the last place to each side (a quarter below a power of two, whose lower
neighbour is closer), its ends included when `m` is even. For `1, 2, … 17` digits the two grid
points around the value are tried in exact `Nat` arithmetic: the first length with a grid point
inside wins, the nearer of two such points is taken, and an exact tie goes to the even digit
string.

* `Double.decode` splits a bit pattern into sign, significand and binary exponent.
* `shortest` returns the digits and decimal exponent of the chosen decimal.
-/

namespace ConnectorPlane

/-- The parts of an IEEE 754 double. -/
inductive Double where
  /-- A zero of the given sign. -/
  | zero (negative : Bool)
  /-- `± mantissa · 2^exponent`, with `mantissa ≠ 0`; `lowerGapHalved` when the next smaller
  double is half as far as the next larger one. -/
  | finite (negative : Bool) (mantissa : Nat) (exponent : Int) (lowerGapHalved : Bool)
  /-- An infinity of the given sign. -/
  | infinite (negative : Bool)
  /-- Not a number. -/
  | nan
deriving Repr

namespace Double

/-- Splits a bit pattern into its parts. -/
def decode (bits : UInt64) : Double :=
  let n : Nat := bits.toNat
  let negative : Bool := n / Nat.pow 2 63 % 2 == 1
  let biased : Nat := n / Nat.pow 2 52 % Nat.pow 2 11
  let fraction : Nat := n % Nat.pow 2 52
  if biased == 2047 then
    if fraction == 0 then .infinite negative else .nan
  else if biased == 0 then
    if fraction == 0 then .zero negative
    else .finite negative fraction (-1074) false
  else
    .finite negative (fraction + Nat.pow 2 52) ((biased : Int) - 1075) (fraction == 0 && biased > 1)

end Double

namespace Decimal

/-- A rational `num / den` with a positive denominator, compared by cross products. -/
structure Ratio where
  num : Nat
  den : Nat

/-- `a ≤ b` on ratios. -/
def Ratio.le (a b : Ratio) : Bool := a.num * b.den ≤ b.num * a.den

/-- `a < b` on ratios. -/
def Ratio.lt (a b : Ratio) : Bool := a.num * b.den < b.num * a.den

/-- `m · 2^e` as a ratio. -/
def ofBinary (m : Nat) (e : Int) : Ratio :=
  if e ≥ 0 then ⟨m * Nat.pow 2 e.toNat, 1⟩ else ⟨m, Nat.pow 2 (-e).toNat⟩

/-- `d · 10^k` as a ratio. -/
def ofDecimal (d : Nat) (k : Int) : Ratio :=
  if k ≥ 0 then ⟨d * Nat.pow 10 k.toNat, 1⟩ else ⟨d, Nat.pow 10 (-k).toNat⟩

/-- `|a - b|` on ratios. -/
def Ratio.dist (a b : Ratio) : Ratio :=
  let x := a.num * b.den
  let y := b.num * a.den
  ⟨if x ≥ y then x - y else y - x, a.den * b.den⟩

/-- The decimal exponent `E` with `10^E ≤ v < 10^(E+1)`, searched within `fuel` steps. -/
def decimalExponent (v : Ratio) : Nat → Int → Int
  | 0, e => e
  | fuel + 1, e =>
    if (ofDecimal 1 (e + 1)).le v then decimalExponent v fuel (e + 1)
    else if v.lt (ofDecimal 1 e) then decimalExponent v fuel (e - 1)
    else e

/-- Removes trailing zero digits, raising the exponent. -/
def trim : Nat → Nat → Int → Nat × Int
  | 0, d, k => (d, k)
  | fuel + 1, d, k => if d != 0 && d % 10 == 0 then trim fuel (d / 10) (k + 1) else (d, k)

/-- The shortest digits `d` and exponent `k` with `d · 10^k` reading back as `m · 2^e`.
`lowerGapHalved` says the lower neighbour is half as far as the upper one. -/
def shortest (m : Nat) (e : Int) (lowerGapHalved : Bool) : Nat × Int :=
  let v := ofBinary (4 * m) (e - 2)
  let lo := ofBinary (if lowerGapHalved then 4 * m - 1 else 4 * m - 2) (e - 2)
  let hi := ofBinary (4 * m + 2) (e - 2)
  let inclusive := m % 2 == 0
  let inside (c : Ratio) : Bool :=
    if inclusive then lo.le c && c.le hi else lo.lt c && c.lt hi
  let top := decimalExponent v 700 0
  let rec search : Nat → Nat → Nat × Int
    | 0, _ => (m, e)
    | fuel + 1, n =>
      let k := top - (n : Int) + 1
      let g := ofDecimal 1 k
      -- floor of v on the grid of step 10^k
      let below := (v.num * g.den) / (v.den * g.num)
      let above := below + 1
      let cb := ofDecimal below k
      let ca := ofDecimal above k
      let okB := below != 0 && inside cb
      let okA := inside ca
      if okB && okA then
        let db := v.dist cb
        let da := v.dist ca
        if db.lt da then trim 20 below k
        else if da.lt db then trim 20 above k
        else if below % 2 == 0 then trim 20 below k else trim 20 above k
      else if okB then trim 20 below k
      else if okA then trim 20 above k
      else search fuel (n + 1)
  search 17 1

end Decimal

end ConnectorPlane
