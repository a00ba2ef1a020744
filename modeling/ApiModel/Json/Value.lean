import ApiModel.Decimal.Notation

/-!
# Plain data values

The values that a contract may carry as defaults and enum literals, and in which every
result is written. Numbers are whole numbers or floating-point numbers; objects have their
keys in the order of their code points.

## Main definitions

* `Json.Number`, `Json.Value`: numbers and values.
* `Json.Value.ofFields`: the object with given fields, sorted by key.
* `Json.Value.get?`: a field of an object.
-/

namespace ApiModel.Json

/-- A number: whole, or floating-point. The whole numbers are those of 64 bits, with or
without sign. -/
inductive Number where
  | int (value : Int)
  | float (value : Float)
  deriving BEq, Repr, Inhabited

/-- Floating-point numbers are positional from `1e-5` up to below `1e16`, and keep the sign
of an exponent. -/
def Number.style : Decimal.Notation :=
  { above := -5, upTo := 16, positiveMark := "e+", negativeMark := "e-" }

/-- The text of a number. -/
def Number.text : Number → String
  | .int n => toString n
  | .float x => Number.style.write x

/-- A plain data value. -/
inductive Value where
  | null
  | bool (value : Bool)
  | number (value : Number)
  | text (value : String)
  | array (items : List Value)
  | object (fields : List (String × Value))
  deriving Inhabited

mutual

/-- Whether two values are equal. A floating-point number equals another one when it compares
equal to it, and never a whole number. -/
def Value.beq : Value → Value → Bool
  | .null, .null => true
  | .bool a, .bool b => a == b
  | .number a, .number b => a == b
  | .text a, .text b => a == b
  | .array xs, .array ys => beqItems xs ys
  | .object xs, .object ys => beqFields xs ys
  | _, _ => false

/-- Whether two lists hold equal values. -/
def beqItems : List Value → List Value → Bool
  | [], [] => true
  | v :: vs, w :: ws => v.beq w && beqItems vs ws
  | _, _ => false

/-- Whether two lists hold equal fields. -/
def beqFields : List (String × Value) → List (String × Value) → Bool
  | [], [] => true
  | (k, v) :: vs, (l, w) :: ws => k == l && v.beq w && beqFields vs ws
  | _, _ => false

end

instance : BEq Value := ⟨Value.beq⟩

/-- Puts a field into a list sorted by key; a field with the same key is replaced. -/
def insertField {α : Type} (key : String) (value : α) :
    List (String × α) → List (String × α)
  | [] => [(key, value)]
  | (k, v) :: rest =>
    if key < k then (key, value) :: (k, v) :: rest
    else if key = k then (key, value) :: rest
    else (k, v) :: insertField key value rest

/-- The fields sorted by key; of several fields with one key the last stays. -/
def sortFields {α : Type} (fields : List (String × α)) : List (String × α) :=
  fields.foldl (fun sorted f => insertField f.1 f.2 sorted) []

namespace Value

/-- The object with given fields. -/
def ofFields (fields : List (String × Value)) : Value := object (sortFields fields)

/-- The array of texts. -/
def texts (items : List String) : Value := array (items.map text)

/-- A text, or null when there is none. -/
def optional {α : Type} (encode : α → Value) : Option α → Value
  | some a => encode a
  | none => null

/-- A floating-point number; infinities and what is not a number are null. -/
def float (x : Float) : Value := if x.isFinite then number (.float x) else null

/-- A whole number. -/
def int (n : Int) : Value := number (.int n)

/-- A field of an object. -/
def get? (key : String) : Value → Option Value
  | object fields => fields.lookup key
  | _ => none

/-- Whether a value is null. -/
def isNull : Value → Bool
  | null => true
  | _ => false

@[simp] theorem isNull_null : isNull null = true := rfl

end Value

/-- A field that is written only when it has a value. -/
def given {α : Type} (key : String) (encode : α → Value) : Option α → List (String × Value)
  | some a => [(key, encode a)]
  | none => []

/-- A field that is written only when its list is not empty. -/
def nonempty {α : Type} (key : String) (encode : List α → Value) : List α → List (String × Value)
  | [] => []
  | items => [(key, encode items)]

end ApiModel.Json
