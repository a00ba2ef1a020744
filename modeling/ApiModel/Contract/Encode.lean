import ApiModel.Contract.Basic

/-!
# Contracts as plain data values

What is not given is not written; a truth value and the map of reusable parts always are.

## Main definitions

* `SchemaNode.toJson`, `Contract.toJson` and the encoders of the parts between them.
-/

namespace ApiModel

open Json

/-! ### Schemas -/

/-- The type keywords of a schema. -/
def TypeSpec.toJson : TypeSpec → Value
  | single t => .text t.text
  | several types => .texts (types.map SchemaType.text)

/-- The fields of validation constraints. -/
def Constraints.fields (c : Constraints) : List (String × Value) :=
  given "minimum" Value.float c.minimum ++
  given "maximum" Value.float c.maximum ++
  given "exclusiveMinimum" Value.float c.exclusiveMinimum ++
  given "exclusiveMaximum" Value.float c.exclusiveMaximum ++
  given "minLength" (fun n => Value.int n) c.minLength ++
  given "maxLength" (fun n => Value.int n) c.maxLength ++
  given "pattern" Value.text c.pattern ++
  given "minItems" (fun n => Value.int n) c.minItems ++
  given "maxItems" (fun n => Value.int n) c.maxItems ++
  given "uniqueItems" Value.bool c.uniqueItems

/-- A discriminator. -/
def ContractDiscriminator.toJson (d : ContractDiscriminator) : Value :=
  .ofFields <|
    [("propertyName", .text d.propertyName)] ++
    nonempty "mapping" (fun m => .ofFields (m.map fun (k, v) => (k, .text v))) d.mapping

mutual

/-- A schema position. -/
def SchemaNode.toJson : SchemaNode → Value
  | .ref pointer => .ofFields [("$ref", .text pointer)]
  | .inline s => bodyToJson s

/-- A schema. -/
def bodyToJson : SchemaBody SchemaNode → Value
  | { type, format, description, defaultValue, nullable, properties, required,
      additionalProperties, items, allOf, oneOf, anyOf, discriminator, enumValues,
      constraints, readOnly, writeOnly } =>
    .ofFields <|
      given "type" TypeSpec.toJson type ++
      given "format" Value.text format ++
      given "description" Value.text description ++
      given "default" id defaultValue ++
      given "nullable" Value.bool nullable ++
      nonempty "properties" Value.ofFields (propertiesToJson properties) ++
      nonempty "required" Value.texts required ++
      additionalToJson additionalProperties ++
      itemsToJson items ++
      nonempty "allOf" Value.array (branchesToJson allOf) ++
      nonempty "oneOf" Value.array (branchesToJson oneOf) ++
      nonempty "anyOf" Value.array (branchesToJson anyOf) ++
      given "discriminator" ContractDiscriminator.toJson discriminator ++
      nonempty "enum" Value.array enumValues ++
      constraints.fields ++
      given "readOnly" Value.bool readOnly ++
      given "writeOnly" Value.bool writeOnly

/-- Named properties. -/
def propertiesToJson : List (String × SchemaNode) → List (String × Value)
  | [] => []
  | (name, p) :: rest => (name, p.toJson) :: propertiesToJson rest

/-- What holds for other properties. -/
def additionalToJson : Option (Additional SchemaNode) → List (String × Value)
  | none => []
  | some (.flag b) => [("additionalProperties", .bool b)]
  | some (.schema s) => [("additionalProperties", s.toJson)]

/-- The schema of items. -/
def itemsToJson : Option SchemaNode → List (String × Value)
  | none => []
  | some s => [("items", s.toJson)]

/-- Branches. -/
def branchesToJson : List SchemaNode → List Value
  | [] => []
  | s :: rest => s.toJson :: branchesToJson rest

end

/-- A schema of its own. -/
def SchemaBody.toJson (s : Schema) : Value := bodyToJson s

/-! ### Parts of an interface -/

/-- A pointer, or what `encode` makes of the component. -/
def Referable.toJson {α : Type} (encode : α → Value) : Referable α → Value
  | ref pointer => .ofFields [("$ref", .text pointer)]
  | inline a => encode a

/-- A map as an object. -/
def mapToJson {α : Type} (encode : α → Value) (entries : List (String × α)) : Value :=
  .ofFields (entries.map fun (k, a) => (k, encode a))

/-- A parameter. -/
def Parameter.toJson (p : Parameter) : Value :=
  .ofFields <|
    [("name", .text p.name), ("in", .text p.location.text), ("required", .bool p.required)] ++
    given "description" Value.text p.description ++
    given "schema" SchemaNode.toJson p.schema

/-- The content of one media type. -/
def MediaType.toJson (m : MediaType) : Value :=
  .ofFields (given "schema" SchemaNode.toJson m.schema)

/-- The body of a request. -/
def RequestBody.toJson (b : RequestBody) : Value :=
  .ofFields <|
    given "description" Value.text b.description ++
    [("content", mapToJson MediaType.toJson b.content), ("required", .bool b.required)]

/-- A response. -/
def Response.toJson (r : Response) : Value :=
  .ofFields <|
    [("description", .text r.description)] ++
    nonempty "content" (mapToJson MediaType.toJson) r.content

/-- An operation. -/
def Operation.toJson (o : Operation) : Value :=
  .ofFields <|
    given "operationId" Value.text o.operationId ++
    given "summary" Value.text o.summary ++
    nonempty "tags" Value.texts o.tags ++
    nonempty "parameters" (fun ps => .array (ps.map (Referable.toJson Parameter.toJson)))
      o.parameters ++
    given "requestBody" (Referable.toJson RequestBody.toJson) o.requestBody ++
    nonempty "responses" (mapToJson (Referable.toJson Response.toJson)) o.responses ++
    [("deprecated", .bool o.deprecated)]

/-- A path with its operations. -/
def PathItem.toJson (item : PathItem) : Value :=
  .ofFields <|
    nonempty "parameters" (fun ps => .array (ps.map (Referable.toJson Parameter.toJson)))
      item.parameters ++
    item.operations.map fun (m, o) => (m.key, o.toJson)

/-- What a contract says about the interface as a whole. -/
def Info.toJson (i : Info) : Value :=
  .ofFields <|
    [("title", .text i.title), ("version", .text i.version)] ++
    given "description" Value.text i.description

/-- A server. -/
def Server.toJson (s : Server) : Value :=
  .ofFields <| [("url", .text s.url)] ++ given "description" Value.text s.description

/-- The reusable parts of a contract. -/
def Components.toJson (c : Components) : Value :=
  .ofFields <|
    nonempty "schemas" (mapToJson SchemaNode.toJson) c.schemas ++
    nonempty "parameters" (mapToJson (Referable.toJson Parameter.toJson)) c.parameters ++
    nonempty "requestBodies" (mapToJson (Referable.toJson RequestBody.toJson))
      c.requestBodies ++
    nonempty "responses" (mapToJson (Referable.toJson Response.toJson)) c.responses

/-- A contract. -/
def Contract.toJson (c : Contract) : Value :=
  .ofFields <|
    [("openapi", .text c.version), ("info", c.info.toJson),
      ("components", c.components.toJson)] ++
    nonempty "servers" (fun ss => .array (ss.map Server.toJson)) c.servers ++
    nonempty "paths" (mapToJson PathItem.toJson) c.paths

end ApiModel
