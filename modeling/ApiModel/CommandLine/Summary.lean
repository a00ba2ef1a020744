import ApiModel.Target.Operation

/-!
# Summaries of resolved contracts

A summary holds names, groups and return types only.

## Main definitions

* `TargetModel.summary`: the summary of a resolved contract.
-/

namespace ApiModel

open Json (Value)

/-- The keyword of a shape. -/
def ModelShape.keyword : ModelShape → String
  | object => "object"
  | enum _ => "enum"
  | synonym _ => "alias"
  | union _ => "union"

/-- The summary of a model. -/
def Model.summary (m : Model) : Value :=
  .ofFields
    [("name", .text m.name.pascalCase), ("kind", .text m.shape.keyword),
      ("parent", .optional Value.text m.parent),
      ("fields", .texts (m.fields.map fun f => f.type.name ++ " " ++ f.identifier))]

/-- The summary of an operation. -/
def ApiOperation.summaryValue (op : ApiOperation) : Value :=
  .ofFields
    [("name", .text op.name.camelCase), ("method", .text op.method.text),
      ("path", .text op.path), ("returns", .text op.shape.returnType.name),
      ("no_content", .bool (op.response matches .noContent))]

/-- The summary of a group. -/
def ApiGroup.summary (g : ApiGroup) : Value :=
  .ofFields
    [("api", .text g.apiName),
      ("operations", .array (g.operations.map ApiOperation.summaryValue)),
      ("imports", .texts g.imports)]

/-- The summary of a resolved contract. -/
def TargetModel.summary (m : TargetModel) : Value :=
  .ofFields
    [("info", .ofFields [("title", .text m.info.title), ("version", .text m.info.version)]),
      ("target", .text m.target), ("models", .array (m.models.map Model.summary)),
      ("groups", .array (m.groups.map ApiGroup.summary))]

end ApiModel
