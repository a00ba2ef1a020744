import ApiModel.Contract.Schema
import ApiModel.Name.Basic
import ApiModel.Target.Type

/-!
# Models of a target platform

A model is what a named schema of the contract becomes, or an object schema without a name
that had to get one.

## Main definitions

* `Field`, `ModelShape`, `Model`: models.
* `Model.referencedTypes`: the types that the file of a model refers to.
-/

namespace ApiModel

/-- A field of a model. -/
structure Field where
  /-- The name of the property in the contract. -/
  property : String
  /-- The identifier, unique within the model. -/
  identifier : String
  /-- The model to which it belongs. -/
  owner : String
  /-- The type. -/
  type : ResolvedType
  /-- Whether the property must be present. -/
  required : Bool
  /-- Whether the property is marked nullable. -/
  nullable : Bool
  /-- Whether the property is only sent. -/
  readOnly : Bool
  /-- Whether the property is only received. -/
  writeOnly : Bool
  /-- A description for readers. -/
  description : Option String
  /-- The validation constraints. -/
  constraints : Constraints
  deriving BEq

/-- What a model is. -/
inductive ModelShape where
  | object
  | enum (type : EnumType)
  | union (type : UnionType ResolvedType)
  | synonym (target : ResolvedType)
  deriving BEq

/-- A model. -/
structure Model where
  /-- Its name. -/
  name : Name
  /-- A description for readers. -/
  description : Option String := none
  /-- What it is. -/
  shape : ModelShape := .object
  /-- Its fields in order. -/
  fields : List Field := []
  /-- The model that it extends. -/
  parent : Option String := none
  /-- What tells the models that extend it, or its branches, apart. -/
  discriminator : Option Discriminator := none
  /-- What the file of the model imports. -/
  imports : List String := []
  deriving BEq

namespace Model

/-- The field of a property. -/
def field? (m : Model) (property : String) : Option Field :=
  m.fields.find? fun f => f.property == property

/-- The types of the shape of a model. -/
def shapeTypes (m : Model) : List ResolvedType :=
  match m.shape with
  | .union u => u.members
  | .synonym target => [target]
  | .object | .enum _ => []

/-- The types that the file of a model refers to. -/
def referencedTypes (m : Model) : List ResolvedType :=
  m.fields.map Field.type ++ m.shapeTypes

end Model

end ApiModel
