import ApiModel.Json.Value

/-!
# The text of a value

Two layouts: on one line without blanks, and over several lines indented by two spaces.

## Main definitions

* `Json.quoted`: a text between quotes.
* `Json.Value.compact`: a value on one line.
* `Json.Value.pretty`: a value over several lines.
-/

namespace ApiModel.Json

/-- A hexadecimal digit in lower case. -/
private def hexDigit (n : Nat) : Char := (Nat.toDigits 16 n).headD '0'

/-- A character as it stands between quotes. Quotes, backslashes and control characters are
escaped, the latter by their short names where they have one. -/
def escaped (c : Char) : List Char :=
  if c = '"' then ['\\', '"']
  else if c = '\\' then ['\\', '\\']
  else if c = '\n' then ['\\', 'n']
  else if c = '\r' then ['\\', 'r']
  else if c = '\t' then ['\\', 't']
  else if c = '\x08' then ['\\', 'b']
  else if c = '\x0c' then ['\\', 'f']
  else if c.toNat < 32 then
    ['\\', 'u', '0', '0', hexDigit (c.toNat / 16), hexDigit (c.toNat % 16)]
  else [c]

/-- A text between quotes. -/
def quoted (s : String) : String :=
  String.ofList ('"' :: s.toList.flatMap escaped ++ ['"'])

mutual

/-- A value on one line, without blanks. -/
def Value.compact : Value → String
  | .null => "null"
  | .bool b => if b then "true" else "false"
  | .number n => n.text
  | .text s => quoted s
  | .array items => "[" ++ compactItems items ++ "]"
  | .object fields => "\x7b" ++ compactFields fields ++ "\x7d"

/-- Values on one line, separated by commas. -/
def compactItems : List Value → String
  | [] => ""
  | [v] => v.compact
  | v :: rest => v.compact ++ "," ++ compactItems rest

/-- Fields on one line, separated by commas. -/
def compactFields : List (String × Value) → String
  | [] => ""
  | [(k, v)] => quoted k ++ ":" ++ v.compact
  | (k, v) :: rest => quoted k ++ ":" ++ v.compact ++ "," ++ compactFields rest

end

/-- A line break and the blanks of a nesting depth. -/
private def lineBreak (depth : Nat) : String :=
  String.ofList ('\n' :: List.replicate (2 * depth) ' ')

mutual

/-- A value over several lines, nested `depth` deep. -/
def Value.prettyAt (depth : Nat) : Value → String
  | .null => "null"
  | .bool b => if b then "true" else "false"
  | .number n => n.text
  | .text s => quoted s
  | .array [] => "[]"
  | .array (v :: rest) => "[" ++ prettyItems (depth + 1) (v :: rest) ++ lineBreak depth ++ "]"
  | .object [] => "\x7b\x7d"
  | .object (f :: rest) =>
    "\x7b" ++ prettyFields (depth + 1) (f :: rest) ++ lineBreak depth ++ "\x7d"

/-- Values on lines of their own. -/
def prettyItems (depth : Nat) : List Value → String
  | [] => ""
  | [v] => lineBreak depth ++ v.prettyAt depth
  | v :: rest => lineBreak depth ++ v.prettyAt depth ++ "," ++ prettyItems depth rest

/-- Fields on lines of their own. -/
def prettyFields (depth : Nat) : List (String × Value) → String
  | [] => ""
  | [(k, v)] => lineBreak depth ++ quoted k ++ ": " ++ v.prettyAt depth
  | (k, v) :: rest =>
    lineBreak depth ++ quoted k ++ ": " ++ v.prettyAt depth ++ "," ++ prettyFields depth rest

end

/-- A value over several lines, indented by two spaces. -/
def Value.pretty (v : Value) : String := v.prettyAt 0

end ApiModel.Json
