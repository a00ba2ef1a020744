import ApiModel.Generation.Grouping
import ApiModel.Generation.ReturnShape
import ApiModel.Name.Route
import ApiModel.Resolution.Shape

/-!
# Building operations

## Main definitions

* `mergeParameters`: the parameters of a path and of an operation.
* `Resolver.operation`: an operation.
-/

namespace ApiModel

/-- Adds a parameter. One of the same name and location is replaced in its place. -/
def insertParameter (q : Parameter) : List Parameter → List Parameter
  | [] => [q]
  | q' :: rest =>
    if q'.name = q.name ∧ q'.location = q.location then q :: rest
    else q' :: insertParameter q rest

/-- The parameters in order of first appearance, each as declared last. -/
def mergeParameters (parameters : List Parameter) : List Parameter :=
  parameters.foldl (fun acc q => insertParameter q acc) []

namespace Resolver

variable (r : Resolver)

/-- How the schema of a parameter is used. -/
def parameterUsage (owner location : String) (q : Parameter) (required : Bool) : Usage :=
  let pascal := (Name.ofText q.name).pascalCase
  { location := location ++ "/parameters/" ++ q.name
    required := some required
    inlineName := owner ++ pascal
    enumName := pascal ++ "Enum" }

/-- A parameter with the identifier that it asks for. One in the path must be sent. -/
def parameter (owner location : String) (q : Parameter) : Resolving ApiParameter := do
  let required := q.required || q.location = .path
  let (type, constraints) ←
    match q.schema with
    | some node => do
      let type ← r.resolve (parameterUsage owner location q required) node
      let target ← r.components.target node
      pure (type, target.constraints)
    | none => pure (r.any, Constraints.none)
  return {
    name := q.name
    identifier := r.profile.identifier (Name.ofText q.name) r.profile.naming.fieldCase
    location := q.location
    type
    required
    description := q.description
    constraints }

/-- The parameters of an operation, with unique identifiers. -/
def parameters (owner location : String) (item : PathItem) (op : Operation) :
    Resolving (List ApiParameter) := do
  let declared ← ((item.parameters ++ op.parameters).mapM fun q =>
    q.get r.components.parameter : Except ResolveError (List Parameter))
  let parameters ← (mergeParameters declared).mapM (r.parameter owner location)
  let identifiers := Allocator.uniqueNames (parameters.map ApiParameter.identifier)
  return parameters.zipWith (fun q identifier => { q with identifier }) identifiers

/-- The body of a request. A body without content is none. -/
def requestBody (owner location : String) (body : Referable RequestBody) :
    Resolving (Option ApiBody) := do
  let body ← body.get r.components.requestBody
  match preferredMedia body.content with
  | none => return none
  | some (contentType, media) =>
    let name := owner ++ "Request"
    let usage : Usage :=
      { location := location ++ "/requestBody"
        required := some body.required
        inlineName := name
        enumName := name }
    let type ←
      match media.schema with
      | some node => r.resolve usage node
      | none => pure r.any
    return some { type, required := body.required, contentType }

/-- The response that counts. -/
def responseOf (owner location : String) (op : Operation) : Resolving ResponseType := do
  match successResponse op.responses with
  | none => return .noContent
  | some (status, response) =>
    let response ← response.get r.components.response
    match (preferredMedia response.content).bind fun (_, media) => media.schema with
    | none => return .noContent
    | some node =>
      let usage := Usage.standalone (location ++ "/responses/" ++ status) (owner ++ "Response")
      return .content (← r.resolve usage node)

/-- An operation. -/
def operation (endpoint : Endpoint) : Resolving ApiOperation := do
  let op := endpoint.operation
  let path := endpoint.path
  let operationId := op.operationId.getD (Route.operationName endpoint.method path)
  let name := Name.ofText operationId
  let location := "#/paths/" ++ path ++ "/" ++ endpoint.method.key
  let parameters ← r.parameters name.pascalCase location endpoint.item op
  let requestBody ←
    match op.requestBody with
    | some body => r.requestBody name.pascalCase location body
    | none => pure none
  let response ← r.responseOf name.pascalCase location op
  let group := groupOf (op.tags.head?.getD defaultGroup) path op.tags r.flags.useTags
  return {
    operationId
    name
    method := endpoint.method
    path
    summary := op.summary
    tags := op.tags
    parameters
    requestBody
    response
    group
    baseName := group
    shape := r.profile.returnShape response r.flags
    deprecated := op.deprecated }

end Resolver

end ApiModel
