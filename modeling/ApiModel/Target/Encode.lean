import ApiModel.Target.Operation

/-!
# Resolved contracts as plain data values

## Main definitions

* `ResolvedType.toJson`, `Model.toJson`, `ApiOperation.toJson`, `TargetModel.toJson`: the
  values.
-/

namespace ApiModel

open Json (Value given)

/-! ### Types -/

/-- A name with its casings. -/
def Name.toJson (n : Name) : Value :=
  .ofFields
    [("original", .text n.text), ("pascal_case", .text n.pascalCase),
      ("camel_case", .text n.camelCase), ("snake_case", .text n.snakeCase),
      ("screaming_snake", .text n.screamingSnake)]

/-- A type of the platform. -/
def TargetType.toJson (t : TargetType) : Value :=
  .ofFields <|
    [("name", .text t.name), ("primitive", .bool t.primitive)] ++
    given "import" Value.text t.importName ++ given "boxed" Value.text t.boxed

/-- The keyword of a nullability. -/
def Nullability.text : Nullability → String
  | nullable => "nullable"
  | nonNull => "non_null"
  | unknown => "unknown"

/-- The keyword of an origin. -/
def DefaultOrigin.text : DefaultOrigin → String
  | declared => "declared"
  | emptyContainer => "empty_container"

/-- A default. -/
def DefaultValue.toJson (d : DefaultValue) : Value :=
  .ofFields
    [("literal", .text d.literal), ("origin", .text d.origin.text), ("imports", .texts d.imports)]

/-- A member of an enum. -/
def EnumMember.toJson (m : EnumMember) : Value :=
  .ofFields
    [("value", m.value), ("identifier", .text m.identifier), ("literal", .text m.literal),
      ("fallback", .bool m.fallback)]

/-- The keyword of what happens to other values. -/
def UnknownValue.text : UnknownValue → String
  | fail => "fail"
  | fallback => "fallback"

/-- An enum. -/
def EnumType.toJson (e : EnumType) : Value :=
  .ofFields
    [("members", .array (e.members.map EnumMember.toJson)), ("unknown", .text e.unknown.text)]

/-- A discriminator. -/
def Discriminator.toJson (d : Discriminator) : Value :=
  .ofFields
    [("property_name", .text d.propertyName),
      ("mapping", .array (d.mapping.map fun (value, target) => .texts [value, target]))]

mutual

/-- A resolved type. -/
def ResolvedType.toJson : ResolvedType → Value
  | ⟨name, target, kind, nullability, defaultValue⟩ =>
    .ofFields
      [("name", .text name), ("target", target.toJson), ("kind", kindToJson kind),
        ("nullability", .text nullability.text),
        ("default_value", .optional DefaultValue.toJson defaultValue)]

/-- What a type is. -/
def kindToJson : TypeKind ResolvedType → Value
  | .primitive => .text "primitive"
  | .any => .text "any"
  | .void => .text "void"
  | .response => .text "response"
  | .model name => .ofFields [("model", .text name)]
  | .enum e => .ofFields [("enum", e.toJson)]
  | .union ⟨members, d⟩ =>
    .ofFields [("union", .ofFields
      [("members", .array (membersToJson members)),
        ("discriminator", .optional Discriminator.toJson d)])]
  | .array inner => .ofFields [("array", inner.toJson)]
  | .map inner => .ofFields [("map", inner.toJson)]
  | .async inner => .ofFields [("async", inner.toJson)]

/-- The members of a union. -/
def membersToJson : List ResolvedType → List Value
  | [] => []
  | t :: rest => t.toJson :: membersToJson rest

end

/-! ### Models -/

/-- The validation constraints that there are. -/
def constraintsToJson (c : Constraints) : Value :=
  .ofFields <|
    given "minimum" Value.float c.minimum ++ given "maximum" Value.float c.maximum ++
    given "exclusive_minimum" Value.float c.exclusiveMinimum ++
    given "exclusive_maximum" Value.float c.exclusiveMaximum ++
    given "min_length" (fun n : Nat => Value.int n) c.minLength ++
    given "max_length" (fun n : Nat => Value.int n) c.maxLength ++
    given "pattern" Value.text c.pattern ++
    given "min_items" (fun n : Nat => Value.int n) c.minItems ++
    given "max_items" (fun n : Nat => Value.int n) c.maxItems ++
    given "unique_items" Value.bool c.uniqueItems

/-- The field of validation constraints, unless there are none. -/
def constraintsField (c : Constraints) : List (String × Value) :=
  if c.isEmpty then [] else [("constraints", constraintsToJson c)]

/-- A field of a model. -/
def Field.toJson (f : Field) : Value :=
  .ofFields <|
    [("original_name", .text f.property), ("identifier", .text f.identifier),
      ("owner", .text f.owner), ("field_type", f.type.toJson), ("required", .bool f.required),
      ("nullable", .bool f.nullable), ("read_only", .bool f.readOnly),
      ("write_only", .bool f.writeOnly), ("description", .optional Value.text f.description)] ++
    constraintsField f.constraints

/-- What a model is. -/
def ModelShape.toJson : ModelShape → Value
  | object => .text "object"
  | enum e => .ofFields [("enum", e.toJson)]
  | union u =>
    .ofFields [("union", .ofFields
      [("members", .array (u.members.map ResolvedType.toJson)),
        ("discriminator", .optional Discriminator.toJson u.discriminator)])]
  | synonym target => .ofFields [("alias", target.toJson)]

/-- A model. -/
def Model.toJson (m : Model) : Value :=
  .ofFields
    [("name", m.name.toJson), ("description", .optional Value.text m.description),
      ("shape", m.shape.toJson), ("fields", .array (m.fields.map Field.toJson)),
      ("parent", .optional Value.text m.parent),
      ("discriminator", .optional Discriminator.toJson m.discriminator),
      ("imports", .texts m.imports)]

/-! ### Operations -/

/-- A parameter. -/
def ApiParameter.toJson (q : ApiParameter) : Value :=
  .ofFields <|
    [("original_name", .text q.name), ("identifier", .text q.identifier),
      ("location", .text q.location.text), ("param_type", q.type.toJson),
      ("required", .bool q.required), ("description", .optional Value.text q.description)] ++
    constraintsField q.constraints

/-- The body of a request. -/
def ApiBody.toJson (b : ApiBody) : Value :=
  .ofFields
    [("body_type", b.type.toJson), ("required", .bool b.required),
      ("content_type", .text b.contentType)]

/-- What an operation returns by the contract. -/
def ResponseType.toJson : ResponseType → Value
  | content type => .ofFields [("content", type.toJson)]
  | noContent => .text "no_content"

/-- The shape of a signature. -/
def ReturnShape.toJson (s : ReturnShape) : Value :=
  .ofFields
    [("is_async", .bool s.isAsync), ("interface_only", .bool s.interfaceOnly),
      ("response_wrapped", .bool s.responseWrapped), ("return_type", s.returnType.toJson)]

/-- An operation. -/
def ApiOperation.toJson (op : ApiOperation) : Value :=
  .ofFields
    [("operation_id", .text op.operationId), ("name", op.name.toJson),
      ("method", .text op.method.text), ("path", .text op.path),
      ("summary", .optional Value.text op.summary), ("tags", .texts op.tags),
      ("parameters", .array (op.parameters.map ApiParameter.toJson)),
      ("request_body", .optional ApiBody.toJson op.requestBody),
      ("response", op.response.toJson), ("group", .text op.group),
      ("base_name", .text op.baseName), ("variant", op.shape.toJson),
      ("deprecated", .bool op.deprecated)]

/-- A group of operations. -/
def ApiGroup.toJson (g : ApiGroup) : Value :=
  .ofFields
    [("name", .text g.name), ("api_name", .text g.apiName),
      ("operations", .array (g.operations.map ApiOperation.toJson)),
      ("imports", .texts g.imports)]

/-! ### The whole -/

/-- The flags in effect. -/
def Flags.toJson (f : Flags) : Value :=
  .ofFields
    [("use_tags", .bool f.useTags), ("support_async", .bool f.supportAsync),
      ("interface_only", .bool f.interfaceOnly), ("return_response", .bool f.returnResponse),
      ("enum_unknown_default_case", .bool f.enumUnknownDefaultCase),
      ("use_reactive", .bool f.useReactive),
      ("spec_file_location", .optional Value.text f.specLocation)]

/-- A resolved contract. -/
def TargetModel.toJson (m : TargetModel) : Value :=
  .ofFields
    [("info", .ofFields
        [("title", .text m.info.title),
          ("description", .optional Value.text m.info.description),
          ("version", .text m.info.version)]),
      ("servers", .array (m.servers.map fun s =>
        .ofFields
          [("url", .text s.url), ("description", .optional Value.text s.description)])),
      ("target", .text m.target), ("flags", m.flags.toJson),
      ("models", .array (m.models.map Model.toJson)),
      ("groups", .array (m.groups.map ApiGroup.toJson))]

end ApiModel
