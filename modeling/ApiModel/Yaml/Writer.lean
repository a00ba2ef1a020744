import ApiModel.Json.Value
import ApiModel.Yaml.ScalarText

/-!
# Values as YAML texts

Objects are written as block mappings and arrays as block sequences, nested by two spaces; the
items of an array behind a key stand as deep as the key. Empty objects and arrays are written
as flow collections.

## Main definitions

* `Yaml.write`: a value as a YAML text.
-/

namespace ApiModel.Yaml

open Json (Value)

/-- Floating-point numbers are positional from `1e-5` up to below `1e16`. -/
def numberStyle : Decimal.Notation :=
  { above := -5, upTo := 16, positiveMark := "e", negativeMark := "e-" }

/-- The text of a number. -/
def numberText : Json.Number → String
  | .int n => toString n
  | .float x => numberStyle.write x

/-- A value that is no object or array, or an empty one. -/
def leafText (indent : Nat) : Value → List Char
  | .null => "null".toList
  | .bool b => (if b then "true" else "false").toList
  | .number n => (numberText n).toList
  | .text s => scalarText indent s
  | .array _ => ['[', ']']
  | .object _ => ['\x7b', '\x7d']

/-- Ends the line, unless it has been ended. -/
def endLine (s : List Char) : List Char := if s.getLast?.any endsLine then s else s ++ ['\n']

/-- A field with a value that is written one way behind a simple key and another way behind a
mark. -/
def fieldText (indent : Nat) (k : String) (afterKey afterMark : Unit → List Char) : List Char :=
  if isSimpleKey k then scalarText (indent + 2) k ++ ':' :: afterKey ()
  else
    '?' :: ' ' :: endLine (scalarText (indent + 2) k) ++ spaces indent ++ ':' :: afterMark ()

mutual

/-- A value behind a key at a depth. -/
def afterKey (indent : Nat) : Value → List Char
  | .array (v :: rest) => '\n' :: blockItems indent (spaces indent) (v :: rest)
  | .object (f :: rest) =>
    '\n' :: blockFields (indent + 2) (spaces (indent + 2)) (f :: rest)
  | v => ' ' :: endLine (leafText (indent + 2) v)

/-- A value behind a mark at a depth. -/
def afterMark (indent : Nat) : Value → List Char
  | .array (v :: rest) => ' ' :: blockItems (indent + 2) [] (v :: rest)
  | .object (f :: rest) => ' ' :: blockFields (indent + 2) [] (f :: rest)
  | v => ' ' :: endLine (leafText (indent + 2) v)

/-- The items of an array at a depth, given what the first line still lacks. -/
def blockItems (indent : Nat) (lead : List Char) : List Value → List Char
  | [] => []
  | v :: rest => lead ++ '-' :: afterMark indent v ++ blockItems indent (spaces indent) rest

/-- The fields of an object at a depth, given what the first line still lacks. -/
def blockFields (indent : Nat) (lead : List Char) : List (String × Value) → List Char
  | [] => []
  | (k, v) :: rest =>
    lead ++ fieldText indent k (fun _ => afterKey indent v) (fun _ => afterMark indent v) ++
      blockFields indent (spaces indent) rest

end

/-- A value as a YAML text. -/
def write (v : Value) : String :=
  String.ofList <|
    match v with
    | .array (v :: rest) => blockItems 0 [] (v :: rest)
    | .object (f :: rest) => blockFields 0 [] (f :: rest)
    | v => endLine (leafText 2 v)

end ApiModel.Yaml
