/-!
# Replacing a text inside a text

## Main definitions

* `Text.substitute`: every occurrence of a pattern is replaced, from left to right and
  without overlaps; what is put in is not searched again.
-/

namespace ApiModel.Text

/-- Replaces `pattern` in a list of characters; `skip` characters of an occurrence that has
been replaced are still to be dropped. -/
def substituteChars (pattern image : List Char) (skip : Nat) : List Char → List Char
  | [] => []
  | c :: rest =>
    match skip with
    | n + 1 => substituteChars pattern image n rest
    | 0 =>
      if pattern.isPrefixOf (c :: rest) then
        image ++ substituteChars pattern image (pattern.length - 1) rest
      else c :: substituteChars pattern image 0 rest

/-- Replaces every occurrence of a non-empty pattern. -/
def substitute (text pattern image : String) : String :=
  String.ofList (substituteChars pattern.toList image.toList 0 text.toList)

@[simp] theorem substituteChars_nil (pattern image : List Char) (skip : Nat) :
    substituteChars pattern image skip [] = [] := rfl

end ApiModel.Text
