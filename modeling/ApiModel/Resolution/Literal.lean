import ApiModel.Json.Text
import ApiModel.Profile.Basic

/-!
# Literals of the target platform

## Main definitions

* `quote`: a text between the quotes of the platform.
* `Profile.scalarLiteral`: a scalar value as a literal.
* `Profile.enumReference`: a member of an enum as a literal.
-/

namespace ApiModel

/-- A character as it stands between quotes. -/
def escapeWithin (mark c : Char) : List Char :=
  if c = '\\' then ['\\', '\\']
  else if c = '\n' then ['\\', 'n']
  else if c = '\r' then ['\\', 'r']
  else if c = '\t' then ['\\', 't']
  else if c = mark then ['\\', c]
  else [c]

/-- A text between quotes. -/
def quote (mark : Char) (text : String) : String :=
  String.ofList (mark :: text.toList.flatMap (escapeWithin mark) ++ [mark])

namespace Profile

variable (p : Profile)

/-- A number as a literal, in the template of its type if there is one. -/
def numberLiteral (n : Json.Number) (typeName : Option String) : String :=
  match typeName.bind fun t => p.literals.numbers.lookup t with
  | some template => fill template n.text
  | none => n.text

/-- A scalar value as a literal. Lists and maps have none. -/
def scalarLiteral (value : Json.Value) (typeName : Option String) : Option String :=
  match value with
  | .text s => some (quote p.literals.quote s)
  | .number n => some (p.numberLiteral n typeName)
  | .bool true => some p.literals.true
  | .bool false => some p.literals.false
  | .null => some p.literals.null
  | .array _ | .object _ => none

/-- A member of an enum as a literal. -/
def enumReference (typeName member : String) : String :=
  Text.substitute (Text.substitute p.literals.enumMember "\x7btype\x7d" typeName)
    "\x7bmember\x7d" member

end Profile

end ApiModel
