import ApiModel.Contract.Method
import ApiModel.Contract.Schema

/-!
# Contracts

A contract describes an interface: its paths with their operations, and reusable components
that operations and schemas point to by name. Maps keep the order of the document.

## Main definitions

* `Referable`: a pointer to a component, or the component itself.
* `Parameter`, `RequestBody`, `Response`, `Operation`, `PathItem`: the parts of an interface.
* `Components`, `Contract`: the reusable parts, and the whole.
* `preferredMedia`, `successResponse`: which media type and which response count.
-/

namespace ApiModel

/-- A pointer to a component, or the component itself. -/
inductive Referable (α : Type) where
  | ref (pointer : String)
  | inline (value : α)
  deriving Repr

/-- Where a parameter is sent. -/
inductive ParameterLocation where
  | query
  | header
  | path
  | cookie
  deriving DecidableEq, Repr, Inhabited

namespace ParameterLocation

/-- The location as contracts have it. -/
def text : ParameterLocation → String
  | query => "query"
  | header => "header"
  | path => "path"
  | cookie => "cookie"

/-- The location of a keyword. -/
def ofKeyword? : String → Option ParameterLocation
  | "query" => some query
  | "header" => some header
  | "path" => some path
  | "cookie" => some cookie
  | _ => none

/-- The keywords in declaration order. -/
def keywords : List String := ["query", "header", "path", "cookie"]

@[simp] theorem ofKeyword?_text (l : ParameterLocation) : ofKeyword? l.text = some l := by
  cases l <;> rfl

end ParameterLocation

/-- A parameter of an operation or of a whole path. -/
structure Parameter where
  /-- The name under which it is sent. -/
  name : String
  /-- Where it is sent. -/
  location : ParameterLocation
  /-- A description for readers. -/
  description : Option String := none
  /-- Whether it must be sent; one in the path always is. -/
  required : Bool := false
  /-- What it may be. -/
  schema : Option SchemaNode := none

/-- The content of one media type. -/
structure MediaType where
  /-- What the content may be. -/
  schema : Option SchemaNode := none

/-- The content of a message by media type. -/
abbrev Content : Type := List (String × MediaType)

/-- The body of a request. -/
structure RequestBody where
  /-- A description for readers. -/
  description : Option String := none
  /-- The content by media type. -/
  content : Content := []
  /-- Whether it must be sent. -/
  required : Bool := false

/-- A response to a request. -/
structure Response where
  /-- A description for readers. -/
  description : String := ""
  /-- The content by media type. -/
  content : Content := []

/-- The responses of an operation by status. -/
abbrev Responses : Type := List (String × Referable Response)

/-- An operation of an interface. -/
structure Operation where
  /-- The name that the contract gives it. -/
  operationId : Option String := none
  /-- A summary for readers. -/
  summary : Option String := none
  /-- The tags that group operations. -/
  tags : List String := []
  /-- The parameters. -/
  parameters : List (Referable Parameter) := []
  /-- The body of the request. -/
  requestBody : Option (Referable RequestBody) := none
  /-- The responses by status. -/
  responses : Responses := []
  /-- Whether it should no longer be used. -/
  deprecated : Bool := false
  deriving Inhabited

/-- A path of an interface with its operations. -/
structure PathItem where
  /-- The parameters of all operations. -/
  parameters : List (Referable Parameter) := []
  /-- The operation under each method. -/
  operation? : Method → Option Operation := fun _ => none

/-- The declared operations in the order of the methods. -/
def PathItem.operations (item : PathItem) : List (Method × Operation) :=
  Method.all.filterMap fun m => (item.operation? m).map (m, ·)

/-- What a contract says about the interface as a whole. -/
structure Info where
  /-- The title. -/
  title : String
  /-- A description for readers. -/
  description : Option String := none
  /-- The version of the interface. -/
  version : String
  deriving DecidableEq, Repr

/-- A server of the interface. -/
structure Server where
  /-- Where it is found. -/
  url : String
  /-- A description for readers. -/
  description : Option String := none
  deriving DecidableEq, Repr

/-- The reusable parts of a contract by name. -/
structure Components where
  /-- The named schemas. -/
  schemas : List (String × SchemaNode) := []
  /-- The named parameters. -/
  parameters : List (String × Referable Parameter) := []
  /-- The named request bodies. -/
  requestBodies : List (String × Referable RequestBody) := []
  /-- The named responses. -/
  responses : List (String × Referable Response) := []

/-- A contract. -/
structure Contract where
  /-- The version of the contract format. -/
  version : String
  /-- The interface as a whole. -/
  info : Info
  /-- The servers. -/
  servers : List Server := []
  /-- The paths in document order. -/
  paths : List (String × PathItem) := []
  /-- The reusable parts. -/
  components : Components := {}

/-- An operation of a contract with where it is declared. -/
structure Endpoint where
  /-- The path. -/
  path : String
  /-- What the path declares. -/
  item : PathItem
  /-- The method. -/
  method : Method
  /-- The operation. -/
  operation : Operation

/-- The operations of a contract: paths in document order, then methods in their order. -/
def Contract.endpoints (c : Contract) : List Endpoint :=
  c.paths.flatMap fun (path, item) =>
    item.operations.map fun (method, operation) => { path, item, method, operation }

/-! ### What counts -/

/-- The entry of a key together with the key. -/
def findEntry {α : Type} (key : String) (entries : List (String × α)) : Option (String × α) :=
  entries.find? fun e => e.1 == key

/-- The media type that counts: `application/json`, else the first one declared. -/
def preferredMedia (content : Content) : Option (String × MediaType) :=
  (findEntry "application/json" content).or content.head?

/-- Whether a status is one of success: three digits, the first a `2`. -/
def isSuccess (status : String) : Bool :=
  match status.toList with
  | ['2', b, c] => b.isDigit && c.isDigit
  | _ => false

/-- The response that counts: the first of success in document order, else `2XX`, else
`default`. -/
def successResponse (responses : Responses) : Option (String × Referable Response) :=
  (responses.find? fun r => isSuccess r.1).or
    ((findEntry "2XX" responses).or (findEntry "default" responses))

end ApiModel
