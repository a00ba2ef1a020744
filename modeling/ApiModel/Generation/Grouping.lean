import ApiModel.Profile.Basic
import ApiModel.Target.Operation
import ApiModel.Text.Segments

/-!
# Grouping operations

Operations share an interface type by their first tag, or else by the first segment of their
path. Groups come in order of first appearance, and keep the order of their operations.

## Main definitions

* `groupOf`: the group of an operation.
* `groupOperations`: the groups of operations.
-/

namespace ApiModel

/-- The group of operations that offer nothing to group them by. -/
def defaultGroup : String := "default"

/-- The first segment of a path, unless it is empty or a parameter. -/
def pathGroup (path : String) : String :=
  let trimmed :=
    match path.toList with
    | '/' :: rest => rest
    | cs => cs
  let first := trimmed.takeWhile fun c => c ≠ '/'
  match first with
  | [] => defaultGroup
  | c :: _ => if c = '\x7b' then defaultGroup else String.ofList first

/-- The group of an operation: by its first tag, or else `key`, where tags are used; and by
its path where they are not. -/
def groupOf (key path : String) (tags : List String) (useTags : Bool) : String :=
  if useTags then tags.head?.getD key else pathGroup path

/-- Adds an operation to the group of its name, or opens one. -/
def addToGroup (op : ApiOperation) :
    List (String × List ApiOperation) → List (String × List ApiOperation)
  | [] => [(op.group, [op])]
  | (name, ops) :: rest =>
    if name = op.group then (name, ops ++ [op]) :: rest else (name, ops) :: addToGroup op rest

/-- The groups of operations. -/
def groupOperations (p : Profile) (operations : List ApiOperation) : List ApiGroup :=
  (operations.foldl (fun groups op => addToGroup op groups) []).map fun (name, operations) =>
    { name, apiName := p.apiName (Name.ofText name), operations }

end ApiModel
