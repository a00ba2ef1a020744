import ApiModel.Contract.Basic
import ApiModel.Document.Node

/-!
# Reading contracts

The outer parts of a contract are read directly, with their form known in advance. Schemas,
parameters, bodies and responses may be written as a pointer instead, so they are read as
they stand before their form is known: a map whose `$ref` is a text is a pointer, and its
other keys do not matter; otherwise the key `$ref` does not matter. Keys without a meaning
are passed over.

## Main definitions

* `Decode.schemaNode`, `Decode.parameter`, `Decode.requestBody`, `Decode.response`: content
  that has been read as it stands.
* `Read.contract`, `Read.responses`, `Read.content`: direct readers.
-/

namespace ApiModel

namespace Decode

/-! ### Schemas -/

/-- A pointer, given as a map whose `$ref` is a text. -/
def pointer (d : Datum) : Option String := do
  let slots ← d.namedRecord ["$ref"]
  slots.required "$ref" Datum.asText

/-- A type keyword. -/
def schemaType : Datum → Option SchemaType :=
  Datum.choice SchemaType.keywords SchemaType.ofKeyword?

/-- The type keywords of a schema. -/
def typeSpec (d : Datum) : Option TypeSpec :=
  ((schemaType d).map .single).or ((d.asList schemaType).map .several)

/-- A discriminator. -/
def discriminator (d : Datum) : Option ContractDiscriminator := do
  let slots ← d.record ["propertyName", "mapping"]
  let propertyName ← slots.required "propertyName" Datum.asText
  let mapping ← slots.defaulted "mapping" [] (Datum.asMap Datum.asText)
  return { propertyName, mapping }

/-- The fields of a schema in their order. -/
def schemaFields : List String :=
  ["type", "format", "description", "default", "nullable", "properties", "required",
    "additionalProperties", "items", "allOf", "oneOf", "anyOf", "discriminator", "enum",
    "minimum", "maximum", "exclusiveMinimum", "exclusiveMaximum", "minLength", "maxLength",
    "pattern", "minItems", "maxItems", "uniqueItems", "readOnly", "writeOnly"]

/-- The validation constraints among the fields of a schema. -/
def constraints (slots : Slots Datum) : Option Constraints := do
  let float (field : String) : Option (Option Float) :=
    slots.optional field (Datum.asOptional Datum.asFloat)
  let count (field : String) : Option (Option Nat) :=
    slots.optional field (Datum.asOptional Datum.asCount)
  return {
    minimum := ← float "minimum"
    maximum := ← float "maximum"
    exclusiveMinimum := ← float "exclusiveMinimum"
    exclusiveMaximum := ← float "exclusiveMaximum"
    minLength := ← count "minLength"
    maxLength := ← count "maxLength"
    pattern := ← slots.optional "pattern" (Datum.asOptional Datum.asText)
    minItems := ← count "minItems"
    maxItems := ← count "maxItems"
    uniqueItems := ← slots.optional "uniqueItems" (Datum.asOptional Datum.asFlag) }

/-- What holds for properties without a name: a truth value, or a schema that `node` reads. -/
def additional (node : Datum → Option SchemaNode) (d : Datum) :
    Option (Additional SchemaNode) :=
  (d.asFlag.map .flag).or ((node d).map .schema)

/-- The schema of given fields, with `node` reading the positions below it. -/
def schemaOfSlots (node : Datum → Option SchemaNode) (slots : Slots Datum) :
    Option Schema := do
  let flag (field : String) : Option (Option Bool) :=
    slots.optional field (Datum.asOptional Datum.asFlag)
  let text (field : String) : Option (Option String) :=
    slots.optional field (Datum.asOptional Datum.asText)
  let branches (field : String) : Option (List SchemaNode) :=
    slots.defaulted field [] (Datum.asList node)
  return {
    type := ← slots.optional "type" (Datum.asOptional typeSpec)
    format := ← text "format"
    description := ← text "description"
    defaultValue := ← slots.optional "default" (Datum.asOptional Datum.toValue)
    nullable := ← flag "nullable"
    properties := ← slots.defaulted "properties" [] (Datum.asMap node)
    required := ← slots.defaulted "required" [] (Datum.asList Datum.asText)
    additionalProperties := ←
      slots.optional "additionalProperties" (Datum.asOptional (additional node))
    items := ← slots.optional "items" (Datum.asOptional node)
    allOf := ← branches "allOf"
    oneOf := ← branches "oneOf"
    anyOf := ← branches "anyOf"
    discriminator := ← slots.optional "discriminator" (Datum.asOptional discriminator)
    enumValues := ← slots.defaulted "enum" [] (Datum.asList Datum.toValue)
    constraints := ← constraints slots
    readOnly := ← flag "readOnly"
    writeOnly := ← flag "writeOnly" }

/-- A schema position with at most a given number of nested lists and maps. -/
def schemaNodeWithin : Nat → Datum → Option SchemaNode
  | 0, _ => none
  | n + 1, d =>
    ((pointer d).map .ref).or do
      let slots ← d.record schemaFields
      return .inline (← schemaOfSlots (schemaNodeWithin n) slots)

/-- A schema position. -/
def schemaNode (d : Datum) : Option SchemaNode := schemaNodeWithin (d.depth + 1) d

/-! ### Parts of an interface -/

/-- A pointer, or content that `decode` reads. -/
def referable {α : Type} (decode : Datum → Option α) (d : Datum) : Option (Referable α) :=
  ((pointer d).map .ref).or ((decode d).map .inline)

/-- A parameter. -/
def parameter : Datum → Option (Referable Parameter) :=
  referable fun d => do
    let slots ← d.record ["name", "in", "description", "required", "schema"]
    return {
      name := ← slots.required "name" Datum.asText
      location := ← slots.required "in"
        (Datum.choice ParameterLocation.keywords ParameterLocation.ofKeyword?)
      description := ← slots.optional "description" (Datum.asOptional Datum.asText)
      required := ← slots.defaulted "required" false Datum.asFlag
      schema := ← slots.optional "schema" (Datum.asOptional schemaNode) }

/-- The content of one media type. -/
def mediaType (d : Datum) : Option MediaType := do
  let slots ← d.record ["schema"]
  return { schema := ← slots.optional "schema" (Datum.asOptional schemaNode) }

/-- The body of a request. -/
def requestBody : Datum → Option (Referable RequestBody) :=
  referable fun d => do
    let slots ← d.record ["description", "content", "required"]
    return {
      description := ← slots.optional "description" (Datum.asOptional Datum.asText)
      content := ← slots.defaulted "content" [] (Datum.asMap mediaType)
      required := ← slots.defaulted "required" false Datum.asFlag }

/-- A response. -/
def response : Datum → Option (Referable Response) :=
  referable fun d => do
    let slots ← d.record ["description", "content"]
    return {
      description := ← slots.defaulted "description" "" Datum.asText
      content := ← slots.defaulted "content" [] (Datum.asMap mediaType) }

end Decode

namespace Read

/-! ### Direct readers -/

/-- A schema position. -/
def schemaNode : Read SchemaNode := buffered Decode.schemaNode

/-- The responses of an operation. -/
def responses : Read Responses := map (buffered Decode.response)

/-- The content of one media type. -/
def mediaType : Read MediaType :=
  record ["schema"] fun n slots => do
    return { schema := ← slots.optional "schema" (optional schemaNode n) }

/-- Content by media type. -/
def content : Read Content := map mediaType

/-- An operation. -/
def operation : Read Operation :=
  record ["operationId", "summary", "tags", "parameters", "requestBody", "responses",
      "deprecated"] fun n slots => do
    return {
      operationId := ← slots.optional "operationId" (optional text n)
      summary := ← slots.optional "summary" (optional text n)
      tags := ← slots.defaulted "tags" [] (list text n)
      parameters := ← slots.defaulted "parameters" [] (list (buffered Decode.parameter) n)
      requestBody := ← slots.optional "requestBody" (optional (buffered Decode.requestBody) n)
      responses := ← slots.defaulted "responses" [] (responses n)
      deprecated := ← slots.defaulted "deprecated" false (flag n) }

/-- A path with its operations. -/
def pathItem : Read PathItem :=
  record ("parameters" :: Method.all.map Method.key) fun n slots => do
    let parameters ←
      slots.defaulted "parameters" [] (list (buffered Decode.parameter) n)
    let operation (m : Method) : Reading (Option Operation) :=
      slots.optional m.key (optional operation n)
    let get ← operation .get
    let put ← operation .put
    let post ← operation .post
    let delete ← operation .delete
    let options ← operation .options
    let head ← operation .head
    let patch ← operation .patch
    let trace ← operation .trace
    return {
      parameters
      operation? := fun
        | .get => get
        | .put => put
        | .post => post
        | .delete => delete
        | .options => options
        | .head => head
        | .patch => patch
        | .trace => trace }

/-- What a contract says about the interface as a whole. -/
def info : Read Info :=
  record ["title", "description", "version"] fun n slots => do
    return {
      title := ← slots.required "title" (text n)
      description := ← slots.optional "description" (optional text n)
      version := ← slots.required "version" (text n) }

/-- A server. -/
def server : Read Server :=
  record ["url", "description"] fun n slots => do
    return {
      url := ← slots.required "url" (text n)
      description := ← slots.optional "description" (optional text n) }

/-- The reusable parts of a contract. -/
def components : Read Components :=
  record ["schemas", "parameters", "requestBodies", "responses"] fun n slots => do
    return {
      schemas := ← slots.defaulted "schemas" [] (map schemaNode n)
      parameters := ← slots.defaulted "parameters" [] (map (buffered Decode.parameter) n)
      requestBodies :=
        ← slots.defaulted "requestBodies" [] (map (buffered Decode.requestBody) n)
      responses := ← slots.defaulted "responses" [] (responses n) }

/-- A contract. -/
def contract : Read Contract :=
  record ["openapi", "info", "servers", "paths", "components"] fun n slots => do
    return {
      version := ← slots.required "openapi" (text n)
      info := ← slots.required "info" (info n)
      servers := ← slots.defaulted "servers" [] (list server n)
      paths := ← slots.defaulted "paths" [] (map pathItem n)
      components := ← slots.defaulted "components" {} (components n) }

end Read

end ApiModel
