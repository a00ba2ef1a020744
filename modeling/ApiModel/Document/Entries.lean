/-!
# Maps in order of first appearance

A map is kept as a list of entries. A key that is set again keeps its place and takes the new
value.

## Main definitions

* `setEntry`: sets a key.
* `ofEntries`: the map of a list of entries.
-/

namespace ApiModel

/-- Sets a key of a map that keeps the order of first appearance. -/
def setEntry {α : Type} (key : String) (value : α) : List (String × α) → List (String × α)
  | [] => [(key, value)]
  | (k, v) :: rest => if k = key then (k, value) :: rest else (k, v) :: setEntry key value rest

/-- The entries of a map in order of first appearance, each key with its last value. -/
def ofEntries {α : Type} (entries : List (String × α)) : List (String × α) :=
  entries.foldl (fun acc e => setEntry e.1 e.2 acc) []

end ApiModel
