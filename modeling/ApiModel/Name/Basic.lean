import ApiModel.Text.Words

/-!
# Names in their casings

A name of the contract is carried together with the four casings in which a target platform
may want it. A text without any letter or digit is named `unnamed`.

## Main definitions

* `Name`: a text and its casings.
* `Name.ofText`: the casings of a text.
* `NameCase`, `NameCase.pick`: one of the casings.
-/

namespace ApiModel

/-- A text of the contract with its casings. -/
structure Name where
  /-- The text as the contract has it. -/
  text : String
  /-- The text in `PascalCase`. -/
  pascalCase : String
  /-- The text in `camelCase`. -/
  camelCase : String
  /-- The text in `snake_case`. -/
  snakeCase : String
  /-- The text in `SCREAMING_SNAKE_CASE`. -/
  screamingSnake : String
  deriving DecidableEq, Repr, Inhabited

namespace Name

/-- The words that a text is cased by: its own, or `unnamed` when it has none. -/
def wordsOf (text : String) : List (List Char) :=
  match Text.words text with
  | [] => ["unnamed".toList]
  | ws => ws

/-- A text with its casings. -/
def ofText (text : String) : Name :=
  let ws := wordsOf text
  { text
    pascalCase := Text.pascalOfWords ws
    camelCase := Text.camelOfWords ws
    snakeCase := Text.snakeOfWords ws
    screamingSnake := Text.screamingSnakeOfWords ws }

@[simp] theorem text_ofText (text : String) : (ofText text).text = text := rfl

/-- The words of a name are never missing. -/
theorem wordsOf_ne_nil (text : String) : wordsOf text ≠ [] := by
  unfold wordsOf
  split
  · simp
  · next h => exact h

end Name

/-- A casing rule of a target platform. -/
inductive NameCase where
  | pascal
  | camel
  | snake
  | screamingSnake
  deriving DecidableEq, Repr

namespace NameCase

/-- The casing of a name that the rule asks for. -/
def pick : NameCase → Name → String
  | pascal, n => n.pascalCase
  | camel, n => n.camelCase
  | snake, n => n.snakeCase
  | screamingSnake, n => n.screamingSnake

/-- The rule by its keyword. -/
def ofKeyword? : String → Option NameCase
  | "pascal" => some pascal
  | "camel" => some camel
  | "snake" => some snake
  | "screaming_snake" => some screamingSnake
  | _ => none

/-- The keywords in declaration order. -/
def keywords : List String := ["pascal", "camel", "snake", "screaming_snake"]

end NameCase

end ApiModel
