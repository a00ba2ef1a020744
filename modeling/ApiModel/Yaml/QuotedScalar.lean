import ApiModel.Yaml.Position

/-!
# Quoted scalars of YAML

A quoted scalar may go over several lines, which are folded. Between single quotes only the
quote itself is escaped, by writing it twice; between double quotes a backslash escapes.

## Main definitions

* `Yaml.scanSingleQuoted`, `Yaml.scanDoubleQuoted`: the scalar up to its closing quote.
-/

namespace ApiModel.Yaml

/-- What a scan of a scalar found: its text, where it ends, and what follows. -/
structure Scanned where
  /-- The text. -/
  text : String
  /-- Where it ends. -/
  position : Position
  /-- What follows. -/
  rest : List Char
  /-- Whether a line break follows the last character, before what follows. -/
  brokeLine : Bool := false

/-- The text of characters collected in reverse order. -/
def textOfReversed (reversed : List Char) : String := String.ofList reversed.reverse

/-- The scalar after an opening single quote. -/
def scanSingle (text : List Char) (gap : Fold) (p : Position) : List Char → Option Scanned
  | [] => none
  | c :: rest =>
    if isBreak c then scanSingle text (gap.addBreak c) p.newline rest
    else if isSpace c then scanSingle text (gap.addBlank c) (p.next c) rest
    else if p.column = 0 ∧ isDocumentMarker (c :: rest) then none
    else
      let text := gap.joined ++ text
      match c, rest with
      | '\'', '\'' :: rest => scanSingle ('\'' :: text) .none (p.ahead 2) rest
      | '\'', rest => some { text := textOfReversed text, position := p.next c, rest }
      | c, rest => scanSingle (c :: text) .none (p.next c) rest

/-- The character that a backslash and one character stand for. -/
def escapedChar : Char → Option Char
  | '0' => some '\x00'
  | 'a' => some '\x07'
  | 'b' => some '\x08'
  | 't' => some '\t'
  | '\t' => some '\t'
  | 'n' => some '\n'
  | 'v' => some '\x0b'
  | 'f' => some '\x0c'
  | 'r' => some '\r'
  | 'e' => some '\x1b'
  | ' ' => some ' '
  | '"' => some '"'
  | '/' => some '/'
  | '\\' => some '\\'
  | 'N' => some '\u0085'
  | '_' => some '\u00a0'
  | 'L' => some '\u2028'
  | 'P' => some '\u2029'
  | _ => none

/-- The value of a hexadecimal digit. -/
def hexDigitValue (c : Char) : Option Nat :=
  if '0' ≤ c && c ≤ '9' then some (c.toNat - '0'.toNat)
  else if 'a' ≤ c && c ≤ 'f' then some (c.toNat - 'a'.toNat + 10)
  else if 'A' ≤ c && c ≤ 'F' then some (c.toNat - 'A'.toNat + 10)
  else none

/-- The number of hexadecimal digits. -/
def hexNumber (digits : List Char) : Option Nat :=
  digits.foldlM (fun n c => (hexDigitValue c).map (n * 16 + ·)) 0

/-- The character of hexadecimal digits; surrogates are no characters. -/
def hexChar (digits : List Char) : Option Char := do
  let n ← hexNumber digits
  if n.isValidChar then some (Char.ofNat n) else none

/-- The scalar after an opening double quote. -/
def scanDouble (text : List Char) (gap : Fold) (p : Position) : List Char → Option Scanned
  | [] => none
  | '\\' :: 'x' :: a :: b :: rest => do
    let c ← hexChar [a, b]
    scanDouble (c :: (gap.joined ++ text)) .none (p.ahead 4) rest
  | '\\' :: 'u' :: a :: b :: c :: d :: rest => do
    let e ← hexChar [a, b, c, d]
    scanDouble (e :: (gap.joined ++ text)) .none (p.ahead 6) rest
  | '\\' :: 'U' :: a :: b :: c :: d :: e :: f :: g :: h :: rest => do
    let i ← hexChar [a, b, c, d, e, f, g, h]
    scanDouble (i :: (gap.joined ++ text)) .none (p.ahead 10) rest
  | '\\' :: c :: rest =>
    if isBreak c then
      scanDouble (gap.joined ++ text) (.lines none []) p.newline rest
    else do
      let e ← escapedChar c
      scanDouble (e :: (gap.joined ++ text)) .none (p.ahead 2) rest
  | c :: rest =>
    if isBreak c then scanDouble text (gap.addBreak c) p.newline rest
    else if isSpace c then scanDouble text (gap.addBlank c) (p.next c) rest
    else if p.column = 0 ∧ isDocumentMarker (c :: rest) then none
    else
      let text := gap.joined ++ text
      if c = '"' then some { text := textOfReversed text, position := p.next c, rest }
      else scanDouble (c :: text) .none (p.next c) rest

/-- The scalar between single quotes, after the opening one. -/
def scanSingleQuoted (p : Position) (s : List Char) : Option Scanned :=
  scanSingle [] .none p s

/-- The scalar between double quotes, after the opening one. -/
def scanDoubleQuoted (p : Position) (s : List Char) : Option Scanned :=
  scanDouble [] .none p s

end ApiModel.Yaml
