import ApiModel.Document.Datum

/-!
# Number literals

A number literal without fraction and exponent is a whole number when it fits 64 bits, with
or without sign; minus zero is not. Every other literal is a floating-point number: as many
leading digits as fit 64 bits make the coefficient, and the coefficient is then moved by a
power of ten in floating-point arithmetic. A literal beyond the largest number has no value.

## Main definitions

* `Json.Literal`: a number literal, taken apart.
* `Json.Literal.datum`: its value.
* `Json.scanLiteral`: the literal at the start of a text.
-/

namespace ApiModel.Json

/-- A number literal, taken apart into its digits. -/
structure Literal where
  /-- Whether it starts with a minus sign. -/
  negative : Bool
  /-- The digits before the point. -/
  whole : List Nat
  /-- The digits after the point, if there is one. -/
  fraction : Option (List Nat)
  /-- Whether the exponent is negative, and its digits, if there is one. -/
  exponent : Option (Bool × List Nat)
  deriving Repr

/-- The largest number of 64 bits. -/
def maxCount : Nat := Nat.pow 2 64 - 1

/-- Appends digits to a coefficient as long as it fits 64 bits; the digits that are left. -/
def appendDigits : Nat → List Nat → Nat × List Nat
  | n, [] => (n, [])
  | n, d :: rest => if n * 10 + d ≤ maxCount then appendDigits (n * 10 + d) rest else (n, d :: rest)

/-- The number that digits stand for. -/
def ofDigits (digits : List Nat) : Nat := digits.foldl (fun n d => n * 10 + d) 0

/-- The value of a literal, if there is one. -/
def Literal.datum (l : Literal) : Option Datum :=
  let (coefficient, rest) := appendDigits 0 l.whole
  let signed (x : Float) : Datum := .float (if l.negative then -x else x)
  match rest, l.fraction, l.exponent with
  | [], none, none =>
    if !l.negative then some (.whole false coefficient)
    else if coefficient = 0 ∨ Nat.pow 2 63 < coefficient then
      some (signed (Decimal.rounded coefficient))
    else some (.whole true coefficient)
  | _, fraction, exponent =>
    let digits := fraction.getD []
    let (coefficient, unused) := appendDigits coefficient digits
    let point : Int := rest.length - (digits.length - unused.length : Nat)
    let (negative, places) := exponent.getD (false, [])
    let places := ofDigits places
    if Nat.pow 2 31 ≤ places then
      if coefficient ≠ 0 ∧ !negative then none else some (signed 0)
    else
      (Decimal.scaled coefficient (if negative then point - places else point + places)).map signed

/-- The digit that a character stands for. -/
def digitValue (c : Char) : Option Nat :=
  if '0' ≤ c && c ≤ '9' then some (c.toNat - '0'.toNat) else none

/-- The digits at the start of a text, and the rest. -/
def scanDigits : List Char → List Nat × List Char
  | [] => ([], [])
  | c :: rest =>
    match digitValue c with
    | some d => (d :: (scanDigits rest).1, (scanDigits rest).2)
    | none => ([], c :: rest)

/-- Digits of which there is at least one. -/
private def scanSomeDigits (s : List Char) : Option (List Nat × List Char) :=
  match scanDigits s with
  | ([], _) => none
  | found => some found

/-- The literal at the start of a text, and the rest. Of several digits before the point the
first is not zero. -/
def scanLiteral (s : List Char) : Option (Literal × List Char) := do
  let (negative, s) :=
    match s with
    | '-' :: rest => (true, rest)
    | s => (false, s)
  let (whole, s) ← scanSomeDigits s
  if whole.head? = some 0 ∧ whole.length ≠ 1 then none
  let (fraction, s) ←
    match s with
    | '.' :: rest => (scanSomeDigits rest).map fun (ds, s) => (some ds, s)
    | s => some (none, s)
  let (exponent, s) ←
    match s with
    | c :: rest =>
      if c = 'e' ∨ c = 'E' then
        match rest with
        | '+' :: rest => (scanSomeDigits rest).map fun (ds, s) => (some (false, ds), s)
        | '-' :: rest => (scanSomeDigits rest).map fun (ds, s) => (some (true, ds), s)
        | rest => (scanSomeDigits rest).map fun (ds, s) => (some (false, ds), s)
      else some (none, c :: rest)
    | [] => some (none, [])
  return (⟨negative, whole, fraction, exponent⟩, s)

end ApiModel.Json
