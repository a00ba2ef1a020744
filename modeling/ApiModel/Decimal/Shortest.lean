/-!
# Shortest decimals of binary floating-point numbers

A finite `Float` other than zero is `m · 2^q` with a whole `m`. The real numbers that round
to it form an interval around it, with its ends when `m` is even. On the grid of decimals
with a given number of digits, only the two neighbours of the number can be the nearest
grid point inside the interval; the first grid, from one digit up, that has such a point
gives the shortest decimal.

## Main definitions

* `Decimal`: a whole coefficient and a power of ten.
* `Decimal.Interval`: the reals that round to one number.
* `Decimal.shortest`: the shortest decimal that reads back as a given number, the nearest
  one among several, the one with the even coefficient on a tie.
-/

namespace ApiModel

/-- The number `coefficient · 10^exponent`. -/
structure Decimal where
  /-- The digits as a whole number. -/
  coefficient : Nat
  /-- The power of ten. -/
  exponent : Int
  deriving DecidableEq, Repr

namespace Decimal

/-- The reals that round to `value · 2^scale`: those between `low · 2^scale` and
`high · 2^scale`. -/
structure Interval where
  /-- The lower end. -/
  low : Nat
  /-- The number itself. -/
  value : Nat
  /-- The upper end. -/
  high : Nat
  /-- The common power of two. -/
  scale : Int
  /-- Whether the ends belong to the interval. -/
  closed : Bool
  deriving DecidableEq, Repr

/-- The interval of the positive number `m · 2^q`; below a power of two, which `onEdge`
tells, the next number is only half as far away. -/
def Interval.around (m : Nat) (q : Int) (onEdge : Bool) : Interval :=
  { low := if onEdge then 4 * m - 1 else 4 * m - 2
    value := 4 * m
    high := 4 * m + 2
    scale := q - 2
    closed := m % 2 == 0 }

/-- The interval of the absolute value of a finite number that is not zero. -/
def Interval.ofFloat (x : Float) : Interval :=
  let bits := x.toBits.toNat % Nat.pow 2 63
  let fraction := bits % Nat.pow 2 52
  let exponent : Nat := bits / Nat.pow 2 52
  if exponent = 0 then .around fraction (-1074) false
  else .around (fraction + Nat.pow 2 52) ((exponent : Int) - 1075)
    (fraction == 0 && exponent != 1)

/-- `10^s / 2^scale` as a numerator over a denominator. -/
def gridUnit (s scale : Int) : Nat × Nat :=
  (Nat.pow 10 s.toNat * Nat.pow 2 (-scale).toNat, Nat.pow 10 (-s).toNat * Nat.pow 2 scale.toNat)

/-- Whether `n · 10^s` lies in the interval, for the unit of `10^s`. -/
def Interval.holds (i : Interval) (unit : Nat × Nat) (n : Nat) : Bool :=
  let x := n * unit.1
  if i.closed then i.low * unit.2 ≤ x && x ≤ i.high * unit.2
  else i.low * unit.2 < x && x < i.high * unit.2

/-- The best coefficient on the grid of `10^s`, if a point of the grid lies in the interval. -/
def Interval.coefficient? (i : Interval) (s : Int) : Option Nat :=
  let unit := gridUnit s i.scale
  let target := i.value * unit.2
  let below := target / unit.1
  let distanceBelow := target - below * unit.1
  let distanceAbove := (below + 1) * unit.1 - target
  match i.holds unit below, i.holds unit (below + 1) with
  | true, true =>
    if distanceBelow < distanceAbove then some below
    else if distanceAbove < distanceBelow then some (below + 1)
    else some (if below % 2 = 0 then below else below + 1)
  | true, false => some below
  | false, true => some (below + 1)
  | false, false => none

/-- The number of decimal digits before the point of `value · 2^scale`, negative when
zeros follow the point. -/
def Interval.magnitude (i : Interval) : Int :=
  let digits (n : Nat) : Int := (Nat.toDigits 10 n).length
  if 0 ≤ i.scale then digits (i.value * Nat.pow 2 i.scale.toNat)
  else digits (i.value * Nat.pow 5 (-i.scale).toNat) + i.scale

/-- Moves zeros at the end of the coefficient into the exponent; `fuel` bounds their number. -/
def withoutZeros : Nat → Nat → Int → Decimal
  | 0, n, s => ⟨n, s⟩
  | fuel + 1, n, s =>
    if n ≠ 0 ∧ n % 10 = 0 then withoutZeros fuel (n / 10) (s + 1) else ⟨n, s⟩

/-- The shortest decimal in an interval, trying from one digit up to 17. -/
def Interval.shortest (i : Interval) : Decimal :=
  let top := i.magnitude
  let found := (List.range 17).findSome? fun (k : Nat) =>
    let s := top - ((k : Int) + 1)
    (i.coefficient? s).map fun n => withoutZeros 20 n s
  found.getD ⟨i.value, i.scale⟩

/-- The shortest decimal that reads back as the absolute value of a finite number that is
not zero. -/
def shortest (x : Float) : Decimal := (Interval.ofFloat x).shortest

end Decimal

end ApiModel
