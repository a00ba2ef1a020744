import ApiModel.Contract.Method
import ApiModel.Text.Segments
import ApiModel.Text.Words

/-!
# Operation names from routes

An operation without an identifier of its own is named by what its method does and by the
resources of its path: `GET /users` is `listUsers`, `GET /users/{id}` is `getUser`.

## Main definitions

* `Route.operationName`: the name of an operation by method and path.
-/

namespace ApiModel.Route

/-- The segments of a path between slashes, without empty ones. -/
def segments (path : String) : List (List Char) :=
  (Text.segments '/' path.toList).filter fun s => !s.isEmpty

/-- Whether a segment stands for a parameter, written in braces. -/
def isPlaceholder (segment : List Char) : Bool :=
  segment.head? == some '\x7b' && segment.getLast? == some '\x7d'

/-- A naive singular form of a word. -/
def singular (word : List Char) : List Char :=
  let ending (suffix : String) : Bool := suffix.toList.isSuffixOf word
  let shorter (n : Nat) : List Char := word.take (word.length - n)
  if ending "ies" && word.length > 3 then shorter 3 ++ ['y']
  else if ending "ses" || ending "xes" || ending "zes" then shorter 2
  else if ending "s" && !ending "ss" && word.length > 1 then shorter 1
  else word

/-- What the method does, as the first word of an operation name. A `GET` fetches one item
when the path ends in a parameter and lists them otherwise. -/
def verb (method : Method) (single : Bool) : String :=
  match method with
  | .get => if single then "get" else "list"
  | .post => "create"
  | .put => "update"
  | .delete => "delete"
  | .patch => "patch"
  | .options => "options"
  | .head => "head"
  | .trace => "trace"

/-- The resources of a path in pascal case; the last one is singular when asked for. -/
def resourceName (single : Bool) : List (List Char) → String
  | [] => ""
  | [last] => Text.pascalCase (String.ofList (if single then singular last else last))
  | part :: rest => Text.pascalCase (String.ofList part) ++ resourceName single rest

/-- The name of an operation by its method and path. -/
def operationName (method : Method) (path : String) : String :=
  let parts := segments path
  let single := parts.getLast?.any isPlaceholder
  verb method single ++ resourceName single (parts.filter fun p => !isPlaceholder p)

end ApiModel.Route
