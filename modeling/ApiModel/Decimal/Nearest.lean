/-!
# From decimals to binary floating-point numbers

## Main definitions

* `Decimal.nearest`: the number nearest to a decimal.
* `Decimal.scaled`: a 64 bit coefficient, rounded and then moved by a power of ten in
  floating-point arithmetic, which can differ from the nearest number in the last place.
* `Decimal.rounded`: the number nearest to a whole number.
-/

namespace ApiModel.Decimal

/-- The power of ten `10^n`, rounded to nearest. -/
def powerOfTen (n : Nat) : Float := Float.ofScientific 1 false n

/-- The number nearest to `coefficient · 10^exponent`. Beyond 400 digits to either side of
the point the answer is infinity or zero, whatever the digits are. -/
def nearest (coefficient : Nat) (exponent : Int) : Float :=
  if coefficient = 0 then 0
  else
    let magnitude : Int := (Nat.toDigits 10 coefficient).length + exponent
    if 400 < magnitude then Float.ofBits 0x7FF0000000000000
    else if magnitude < -400 then 0
    else if 0 ≤ exponent then Float.ofScientific coefficient false exponent.toNat
    else Float.ofScientific coefficient true (-exponent).toNat

/-- The number nearest to a whole number of 64 bits. -/
def rounded (n : Nat) : Float := (UInt64.ofNat n).toFloat

/-- Moves a number by a power of ten, in steps of at most 308 places; nothing when it grows
beyond the largest number. `steps` bounds the steps: after four of them only zero is left. -/
def scaleBy (steps : Nat) (f : Float) (exponent : Int) : Option Float :=
  if exponent.natAbs ≤ 308 then
    if 0 ≤ exponent then
      let g := f * powerOfTen exponent.natAbs
      if g.isInf then none else some g
    else some (f / powerOfTen exponent.natAbs)
  else if f == 0 then some f
  else if 0 ≤ exponent then none
  else
    match steps with
    | 0 => some 0
    | n + 1 => scaleBy n (f / powerOfTen 308) (exponent + 308)

/-- A coefficient of 64 bits moved by a power of ten in floating-point arithmetic; nothing
when it grows beyond the largest number. -/
def scaled (coefficient : Nat) (exponent : Int) : Option Float :=
  scaleBy 4 (rounded coefficient) exponent

end ApiModel.Decimal
