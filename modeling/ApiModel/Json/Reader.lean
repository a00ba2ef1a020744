import ApiModel.Document.Node
import ApiModel.Json.Literal

/-!
# Reading JSON documents

A document is one value with blanks around it. Content that no reader asks for only has to
be well formed: its numbers may be out of range, its texts may hold halves of surrogate
pairs, and it may be nested without limit. What is read has at most 127 nested levels.

## Main definitions

* `Json.parse`: the document of a text.
* `Json.Value.toNode`, `Json.Value.toDocument`: a value as a document.
-/

namespace ApiModel.Json

/-! ### Texts -/

/-- A text between quotes: characters as they stand, and the code units of numeric escapes. -/
inductive Unit16 where
  | plain (c : Char)
  | unit (n : Nat)
  deriving Repr

/-- The value of a hexadecimal digit. -/
def hexValue (c : Char) : Option Nat :=
  if '0' ≤ c && c ≤ '9' then some (c.toNat - '0'.toNat)
  else if 'a' ≤ c && c ≤ 'f' then some (c.toNat - 'a'.toNat + 10)
  else if 'A' ≤ c && c ≤ 'F' then some (c.toNat - 'A'.toNat + 10)
  else none

/-- The character that a backslash and one character stand for. -/
def shortEscape : Char → Option Char
  | '"' => some '"'
  | '\\' => some '\\'
  | '/' => some '/'
  | 'b' => some '\x08'
  | 'f' => some '\x0c'
  | 'n' => some '\n'
  | 'r' => some '\r'
  | 't' => some '\t'
  | _ => none

/-- The text up to the closing quote, and the rest. Control characters must be escaped. -/
def scanText : List Char → Option (List Unit16 × List Char)
  | '"' :: rest => some ([], rest)
  | '\\' :: 'u' :: a :: b :: c :: d :: rest => do
    let n := (((← hexValue a) * 16 + (← hexValue b)) * 16 + (← hexValue c)) * 16 + (← hexValue d)
    let (text, rest) ← scanText rest
    return (.unit n :: text, rest)
  | '\\' :: c :: rest => do
    let e ← shortEscape c
    let (text, rest) ← scanText rest
    return (.plain e :: text, rest)
  | c :: rest => do
    if c.toNat < 32 then none
    let (text, rest) ← scanText rest
    return (.plain c :: text, rest)
  | [] => none

/-- The characters of a text; nothing when a half of a surrogate pair stands alone. -/
def joinUnits : List Unit16 → Option (List Char)
  | [] => some []
  | .plain c :: rest => (joinUnits rest).map (c :: ·)
  | .unit n :: rest =>
    if n < 0xD800 ∨ 0xDFFF < n then (joinUnits rest).map (Char.ofNat n :: ·)
    else
      match rest with
      | .unit m :: rest =>
        if n ≤ 0xDBFF ∧ 0xDC00 ≤ m ∧ m ≤ 0xDFFF then
          (joinUnits rest).map
            (Char.ofNat (0x10000 + (n - 0xD800) * 0x400 + (m - 0xDC00)) :: ·)
        else none
      | _ => none

/-! ### Scalars -/

/-- A text as a scalar; without a value when the text is not well formed. -/
def textScalar (text : Option String) : Scalar :=
  { text, choice := text, datum := text.map .text }

/-- The scalar `null`. -/
def nullScalar : Scalar := { absent := some true, datum := some .null }

/-- The scalar `true` or `false`. -/
def flagScalar (b : Bool) : Scalar := { flag := some b, datum := some (.bool b) }

/-- A number as a scalar; without a value when it is out of range. -/
def numberScalar (datum : Option Datum) : Scalar := { datum }

/-! ### Values -/

/-- A text without leading blanks. -/
def skipBlanks : List Char → List Char
  | c :: rest => if c = ' ' ∨ c = '\n' ∨ c = '\t' ∨ c = '\r' then skipBlanks rest else c :: rest
  | [] => []

/-- A text up to its closing quote as a scalar, and the rest. -/
def scanQuoted (s : List Char) : Option (Scalar × List Char) := do
  let (units, rest) ← scanText s
  return (textScalar ((joinUnits units).map String.ofList), rest)

mutual

/-- The value at the start of a text, and the rest. The first argument bounds the number of
characters. -/
def scanValue : Nat → List Char → Option (Node × List Char)
  | 0, _ => none
  | n + 1, s =>
    match skipBlanks s with
    | '\x7b' :: rest =>
      match skipBlanks rest with
      | '\x7d' :: rest => some (.map false [], rest)
      | rest => scanEntries n [] rest
    | '[' :: rest =>
      match skipBlanks rest with
      | ']' :: rest => some (.list false [], rest)
      | rest => scanItems n [] rest
    | '"' :: rest => (scanQuoted rest).map fun (s, rest) => (.scalar s, rest)
    | 'n' :: 'u' :: 'l' :: 'l' :: rest => some (.scalar nullScalar, rest)
    | 't' :: 'r' :: 'u' :: 'e' :: rest => some (.scalar (flagScalar true), rest)
    | 'f' :: 'a' :: 'l' :: 's' :: 'e' :: rest => some (.scalar (flagScalar false), rest)
    | s => (scanLiteral s).map fun (l, rest) => (.scalar (numberScalar l.datum), rest)

/-- The remaining items of a list; `items` are those before, reversed. -/
def scanItems : Nat → List Node → List Char → Option (Node × List Char)
  | 0, _, _ => none
  | n + 1, items, s => do
    let (item, s) ← scanValue n s
    match skipBlanks s with
    | ',' :: rest => scanItems n (item :: items) rest
    | ']' :: rest => some (.list false (item :: items).reverse, rest)
    | _ => none

/-- The remaining entries of a map; `entries` are those before, reversed. -/
def scanEntries : Nat → List (Node × Node) → List Char → Option (Node × List Char)
  | 0, _, _ => none
  | n + 1, entries, s => do
    match skipBlanks s with
    | '"' :: rest =>
      let (key, rest) ← scanQuoted rest
      match skipBlanks rest with
      | ':' :: rest =>
        let (value, rest) ← scanValue n rest
        match skipBlanks rest with
        | ',' :: rest => scanEntries n ((.scalar key, value) :: entries) rest
        | '\x7d' :: rest => some (.map false ((.scalar key, value) :: entries).reverse, rest)
        | _ => none
      | _ => none
    | _ => none

end

/-- The document of a text. -/
def parse (text : String) : Option Document := do
  let s := text.toList
  let (root, rest) ← scanValue (s.length + 1) s
  if skipBlanks rest ≠ [] then none
  return { root, levels := 127, positional := true }

/-! ### Values as documents -/

mutual

/-- A value as a node. -/
def Value.toNode : Value → Node
  | .null => .scalar nullScalar
  | .bool b => .scalar (flagScalar b)
  | .number (.int n) => .scalar (numberScalar (some (.whole (n < 0) n.natAbs)))
  | .number (.float x) => .scalar (numberScalar (some (.float x)))
  | .text s => .scalar (textScalar (some s))
  | .array items => .list false (toNodes items)
  | .object fields => .map false (toEntries fields)

/-- Values as nodes. -/
def toNodes : List Value → List Node
  | [] => []
  | v :: rest => v.toNode :: toNodes rest

/-- Fields as entries. -/
def toEntries : List (String × Value) → List (Node × Node)
  | [] => []
  | (k, v) :: rest => (.scalar (textScalar (some k)), v.toNode) :: toEntries rest

end

mutual

/-- How deep arrays and objects are nested. -/
def Value.depth : Value → Nat
  | .array items => depthOfItems items + 1
  | .object fields => depthOfFields fields + 1
  | _ => 0

/-- The depth of the deepest item. -/
def depthOfItems : List Value → Nat
  | [] => 0
  | v :: rest => max v.depth (depthOfItems rest)

/-- The depth of the deepest field. -/
def depthOfFields : List (String × Value) → Nat
  | [] => 0
  | (_, v) :: rest => max v.depth (depthOfFields rest)

end

/-- A value as a document, read to any depth. -/
def Value.toDocument (v : Value) : Document :=
  { root := v.toNode, levels := v.depth, positional := true }

end ApiModel.Json
