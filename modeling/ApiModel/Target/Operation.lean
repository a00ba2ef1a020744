import ApiModel.Contract.Basic
import ApiModel.Settings.Flags
import ApiModel.Target.Model

/-!
# Operations of a target platform

## Main definitions

* `ApiParameter`, `ApiBody`, `ResponseType`, `ReturnShape`, `ApiOperation`: operations.
* `ApiGroup`: the operations that share one interface type.
* `TargetModel`: a whole contract, ready to be rendered.
-/

namespace ApiModel

/-- A parameter of an operation. -/
structure ApiParameter where
  /-- The name under which it is sent. -/
  name : String
  /-- The identifier, unique within the operation. -/
  identifier : String
  /-- Where it is sent. -/
  location : ParameterLocation
  /-- The type. -/
  type : ResolvedType
  /-- Whether it must be sent. -/
  required : Bool
  /-- A description for readers. -/
  description : Option String
  /-- The validation constraints. -/
  constraints : Constraints
  deriving BEq

/-- The body of a request. -/
structure ApiBody where
  /-- The type. -/
  type : ResolvedType
  /-- Whether it must be sent. -/
  required : Bool
  /-- The media type. -/
  contentType : String
  deriving BEq

/-- What the contract says that an operation returns. -/
inductive ResponseType where
  | content (type : ResolvedType)
  | noContent
  deriving BEq

/-- The shape of the signature of an operation. -/
structure ReturnShape where
  /-- Whether the result is delivered later. -/
  isAsync : Bool
  /-- Whether only interfaces are wanted. -/
  interfaceOnly : Bool
  /-- Whether the generic response type is returned. -/
  responseWrapped : Bool
  /-- The type that is returned. -/
  returnType : ResolvedType
  deriving BEq

/-- An operation. -/
structure ApiOperation where
  /-- Its identifier in the contract, or the name of its route. -/
  operationId : String
  /-- Its name, unique among all operations. -/
  name : Name
  /-- The method. -/
  method : Method
  /-- The path. -/
  path : String
  /-- A summary for readers. -/
  summary : Option String
  /-- The tags. -/
  tags : List String
  /-- The parameters in order. -/
  parameters : List ApiParameter
  /-- The body of the request. -/
  requestBody : Option ApiBody
  /-- What it returns by the contract. -/
  response : ResponseType
  /-- The group to which it belongs. -/
  group : String
  /-- The base name of its group. -/
  baseName : String
  /-- The shape of its signature. -/
  shape : ReturnShape
  /-- Whether it should no longer be used. -/
  deprecated : Bool
  deriving BEq

/-- The types that an operation adds to the file of its group. -/
def ApiOperation.referencedTypes (op : ApiOperation) : List ResolvedType :=
  op.parameters.map ApiParameter.type ++ op.requestBody.toList.map ApiBody.type ++
    [op.shape.returnType]

/-- The operations that share one interface type. -/
structure ApiGroup where
  /-- The name of the group. -/
  name : String
  /-- The name of the interface type. -/
  apiName : String
  /-- The operations in order. -/
  operations : List ApiOperation
  /-- What the file of the group imports. -/
  imports : List String := []
  deriving BEq

/-- A contract resolved for a target platform. -/
structure TargetModel where
  /-- The interface as a whole. -/
  info : Info
  /-- The servers. -/
  servers : List Server
  /-- The target platform. -/
  target : String
  /-- The flags in effect. -/
  flags : Flags
  /-- The models: those of named schemas, then the others. -/
  models : List Model
  /-- The groups of operations. -/
  groups : List ApiGroup

namespace TargetModel

/-- The model of a name of the contract. -/
def model? (m : TargetModel) (name : String) : Option Model :=
  m.models.find? fun model => model.name.text == name

/-- The group of a name. -/
def group? (m : TargetModel) (name : String) : Option ApiGroup :=
  m.groups.find? fun group => group.name == name

/-- The copy of the contract that is put beside the output, as its path and its content,
unless the copy is disabled. -/
def embeddedContract (m : TargetModel) (source : String) : Option (String × String) :=
  m.flags.specLocation.map fun path => (path, source)

end TargetModel

end ApiModel
