import ApiModel.Decimal.Shortest

/-!
# Writing floating-point numbers

Numbers are written with the digits of their shortest decimal. What a format decides on top
of that is one record: where positional notation ends, and how an exponent is written.

## Main definitions

* `Decimal.Notation`: the decisions of a format.
* `Decimal.Notation.write`: the text of a finite number.
-/

namespace ApiModel.Decimal

/-- The decisions of a format on how numbers are written. -/
structure Notation where
  /-- Positional notation needs more than this many digits before the point; a negative
  number counts the zeros behind the point. -/
  above : Int
  /-- Positional notation needs at most this many digits before the point. -/
  upTo : Int
  /-- What stands between the digits and an exponent that is not negative. -/
  positiveMark : String
  /-- What stands between the digits and a negative exponent. -/
  negativeMark : String
  deriving Repr

/-- `n` zeros. -/
private def zeros (n : Int) : String := String.ofList (List.replicate n.toNat '0')

/-- The text of `0.` followed by digits, of `coefficient · 10^exponent` in positional or in
exponent notation. -/
def Notation.writeDecimal (f : Notation) (d : Decimal) : String :=
  let digits := Nat.toDigits 10 d.coefficient
  let point : Int := digits.length + d.exponent
  if 0 ≤ d.exponent ∧ point ≤ f.upTo then
    String.ofList digits ++ zeros d.exponent ++ ".0"
  else if 0 < point ∧ point ≤ f.upTo then
    String.ofList (digits.take point.toNat) ++ "." ++ String.ofList (digits.drop point.toNat)
  else if f.above < point ∧ point ≤ 0 then
    "0." ++ zeros (-point) ++ String.ofList digits
  else
    let mantissa :=
      match digits with
      | [d] => String.ofList [d]
      | d :: rest => String.ofList (d :: '.' :: rest)
      | [] => ""
    let exponent := point - 1
    let mark := if 0 ≤ exponent then f.positiveMark else f.negativeMark
    mantissa ++ mark ++ toString exponent.natAbs

/-- The text of a finite number. A negative number, negative zero included, has a sign. -/
def Notation.write (f : Notation) (x : Float) : String :=
  let sign := if x.toBits.toNat / Nat.pow 2 63 = 1 then "-" else ""
  sign ++ (if x == 0 then "0.0" else f.writeDecimal (shortest x))

end ApiModel.Decimal
