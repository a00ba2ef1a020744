import ApiModel.Text.CaseMapping

/-!
# Words of a text and their casings

A text is cut into words at every character that is neither letter nor digit, before an
upper case character that follows a lower case one, and before the last of several upper
case characters when a lower case one follows (`HTTPServer` is `HTTP`, `Server`).
Characters without case leave the rule where it stands (`a1B` is `a1`, `B`).

## Main definitions

* `Text.words`: the words of a text.
* `Text.pascalOfWords`, `Text.camelOfWords`, `Text.snakeOfWords`, `Text.screamingSnakeOfWords`:
  words written together in one of four casings.
* `Text.pascalCase`: a text in PascalCase.
-/

namespace ApiModel.Text

/-! ### Cutting -/

/-- The case of the last cased character of the word so far. -/
inductive CaseRun where
  | uncased
  | lower
  | upper
  deriving DecidableEq, Repr

/-- The case run after one more character. -/
def CaseRun.after (run : CaseRun) (c : Char) : CaseRun :=
  if isLower c then .lower else if isUpper c then .upper else run

/-- The maximal pieces of letters and digits, empty ones included; `piece` is the piece
under way, reversed. -/
def pieces (piece : List Char) : List Char → List (List Char)
  | [] => [piece.reverse]
  | c :: rest =>
    if isAlphanumeric c then pieces (c :: piece) rest else piece.reverse :: pieces [] rest

/-- Cuts a piece where the case changes; `word` is the word under way, reversed. -/
def cutAtCase (run : CaseRun) (word : List Char) : List Char → List (List Char)
  | [] => if word.isEmpty then [] else [word.reverse]
  | [c] => [(c :: word).reverse]
  | c :: d :: rest =>
    if run.after c = .lower ∧ isUpper d then
      (c :: word).reverse :: cutAtCase .uncased [] (d :: rest)
    else if run = .upper ∧ isUpper c ∧ isLower d then
      word.reverse :: cutAtCase .uncased [c] (d :: rest)
    else cutAtCase (run.after c) (c :: word) (d :: rest)

/-- The words of a text, in order. -/
def words (s : String) : List (List Char) :=
  (pieces [] s.toList).flatMap (cutAtCase .uncased [])

/-! ### Casing one word -/

/-- A word in lower case; a sigma at its end takes the final form. -/
def lowerWord : List Char → List Char
  | [] => []
  | [c] => if c = 'Σ' then ['ς'] else lower c
  | c :: rest => lower c ++ lowerWord rest

/-- A word in upper case. -/
def upperWord (w : List Char) : List Char := w.flatMap upper

/-- A word with its first character in upper case and the rest in lower case. -/
def capitalize : List Char → List Char
  | [] => []
  | c :: rest => upper c ++ lowerWord rest

@[simp] theorem lowerWord_nil : lowerWord [] = [] := rfl

@[simp] theorem upperWord_nil : upperWord [] = [] := rfl

@[simp] theorem capitalize_nil : capitalize [] = [] := rfl

/-! ### Casing a list of words -/

/-- All words capitalized and written together. -/
def pascalOfWords (ws : List (List Char)) : String := String.ofList (ws.flatMap capitalize)

/-- The first word in lower case, the others capitalized, written together. -/
def camelOfWords : List (List Char) → String
  | [] => ""
  | w :: ws => String.ofList (lowerWord w ++ ws.flatMap capitalize)

/-- All words in lower case, joined by `_`. -/
def snakeOfWords (ws : List (List Char)) : String :=
  String.ofList (['_'].intercalate (ws.map lowerWord))

/-- All words in upper case, joined by `_`. -/
def screamingSnakeOfWords (ws : List (List Char)) : String :=
  String.ofList (['_'].intercalate (ws.map upperWord))

/-- A text in pascal case. -/
def pascalCase (s : String) : String := pascalOfWords (words s)

end ApiModel.Text
