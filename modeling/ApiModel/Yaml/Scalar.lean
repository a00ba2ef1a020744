import ApiModel.Decimal.Nearest
import ApiModel.Document.Node
import ApiModel.Yaml.Tag

/-!
# What YAML scalars mean

A plain scalar without a tag is null, a truth value, a number or a text by its spelling.
Whole numbers may be written in base ten, two, eight and sixteen; with a leading zero they
are texts. A tag may ask for one of the core types, for a type of the document's own, or for
a text.

## Main definitions

* `Yaml.wholeNumber?`, `Yaml.float?`: numbers by their spelling.
* `Yaml.plainDatum`: the value of a plain scalar.
* `Yaml.scalarOf`: a scalar by its tag, style and text.
-/

namespace ApiModel.Yaml

/-! ### Words and numbers -/

/-- Whether a text is a word for null. -/
def isNullWord (s : String) : Bool := ["null", "Null", "NULL", "~"].contains s

/-- The truth value of a word. -/
def truthOfWord? (s : String) : Option Bool :=
  if ["true", "True", "TRUE"].contains s then some true
  else if ["false", "False", "FALSE"].contains s then some false
  else none

/-- Whether a number without sign has a leading zero before further digits, and nothing
else. -/
def isPadded : List Char → Bool
  | '0' :: c :: rest => (c :: rest).all Char.isDigit
  | _ => false

/-- The number of at least one digit in a base of at most sixteen. -/
def digits? (base : Nat) (digits : List Char) : Option Nat :=
  if digits.isEmpty then none
  else
    digits.foldlM
      (fun n c => (hexDigitValue c).bind fun d => if d < base then some (n * base + d) else none)
      0

/-- The whole number that a text spells without a sign. -/
def magnitude? : List Char → Option Nat
  | '0' :: 'x' :: rest => digits? 16 rest
  | '0' :: 'o' :: rest => digits? 8 rest
  | '0' :: 'b' :: rest => digits? 2 rest
  | s => if isPadded s then none else digits? 10 s

/-- A sign at the start of a text, as whether it is negative, and what follows. -/
def splitSign : List Char → Bool × List Char
  | '-' :: rest => (true, rest)
  | '+' :: rest => (false, rest)
  | s => (false, s)

/-- The whole number that a text spells: whether it has a minus sign, and what is behind it. -/
def wholeNumber? (s : List Char) : Option (Bool × Nat) :=
  let (negative, rest) := splitSign s
  (magnitude? rest).map fun n => (negative, n)

/-- The exponent behind the digits of a number. -/
def exponent? : List Char → Option Int
  | [] => some 0
  | c :: rest =>
    if c = 'e' ∨ c = 'E' then
      let (negative, digits) := splitSign rest
      if digits.all Char.isDigit then
        (digits? 10 digits).map fun n => if negative then -(n : Int) else n
      else none
    else none

/-- The finite number that a decimal without sign spells. -/
def decimal? (s : List Char) : Option Float := do
  let whole := s.takeWhile Char.isDigit
  let rest := s.drop whole.length
  let (part, rest) :=
    match rest with
    | '.' :: rest => (rest.takeWhile Char.isDigit, rest.dropWhile Char.isDigit)
    | rest => ([], rest)
  let coefficient ← digits? 10 (whole ++ part)
  let exponent ← exponent? rest
  let x := Decimal.nearest coefficient (exponent - part.length)
  if x.isFinite then return x else none

/-- The floating-point number that a text spells. -/
def float? (s : String) : Option Float :=
  if [".inf", ".Inf", ".INF", "+.inf", "+.Inf", "+.INF"].contains s then
    some (Float.ofBits 0x7FF0000000000000)
  else if ["-.inf", "-.Inf", "-.INF"].contains s then some (Float.ofBits 0xFFF0000000000000)
  else if [".nan", ".NaN", ".NAN"].contains s then some (Float.ofBits 0x7FF8000000000000)
  else
    let (negative, rest) := splitSign s.toList
    (decimal? rest).map fun x => if negative then -x else x

/-! ### Values -/

/-- Whether a whole number is one of so many bits, of which a minus sign takes one. -/
def fitsBits (bits : Nat) : Bool × Nat → Bool
  | (true, n) => n ≤ Nat.pow 2 (bits - 1)
  | (false, n) => n < Nat.pow 2 bits

/-- A whole number as a value, when it is one of 64 bits. -/
def intDatum? (n : Bool × Nat) : Option Datum :=
  if fitsBits 64 n then some (.whole n.1 n.2) else none

/-- The value of a plain scalar: null, a truth value, a number, or else a text. A whole
number of 65 to 128 bits has no value; a longer one is a floating-point number. -/
def plainDatum (s : String) : Option Datum :=
  let other : Datum :=
    if isPadded (splitSign s.toList).2 then .text s
    else ((float? s).map Datum.float).getD (.text s)
  if s.isEmpty || isNullWord s then some .null
  else
    match truthOfWord? s, wholeNumber? s.toList with
    | some b, _ => some (.bool b)
    | none, some n => if fitsBits 128 n then intDatum? n else some other
    | none, none => some other

/-- The value of a text of a core type. -/
def CoreType.datum : CoreType → String → Option Datum
  | bool, s => (truthOfWord? s).map .bool
  | int, s => (wholeNumber? s.toList).bind intDatum?
  | float, s => (float? s).map .float
  | null, s => if isNullWord s then some .null else none

/-- The value of a scalar. One of a named type of the document's own has none; without a name
such a type does not count. -/
def datumOf (tag : Option Tag) (style : Style) (s : String) : Option Datum :=
  match tag with
  | some (.core type) => type.datum s
  | some (.own (some _)) => none
  | some .other => some (.text s)
  | none | some (.own none) => if style = .plain then plainDatum s else some (.text s)

/-- A scalar by its tag, style and text. -/
def scalarOf (tag : Option Tag) (style : Style) (s : String) : Scalar :=
  { text := some s
    flag :=
      if style = .plain ∨ (style = .literal ∧ tag = some (.core .bool)) then truthOfWord? s
      else none
    absent :=
      if style ≠ .plain then some false
      else if tag = some (.core .null) then if isNullWord s then some true else none
      else some (tag.isNone && (s.isEmpty || isNullWord s))
    blank := style = .plain && s.isEmpty
    choice :=
      match tag.bind Tag.ownName? with
      | some name => if style = .plain ∧ (s.isEmpty ∨ isNullWord s) then some name else none
      | none => some s
    datum := datumOf tag style s }

end ApiModel.Yaml
