import ApiModel.Name.Allocator
import ApiModel.Resolution.Default
import ApiModel.Resolution.Walk
import ApiModel.Target.Model

/-!
# Resolving schemas for a target platform

A resolver knows the components of a contract, the profile and the flags. While one schema or
operation is resolved, object schemas without a name are promoted to models; the promoted
models and the names that have been given out are the state.

## Main definitions

* `Usage`: where a schema is used.
* `Resolver`: what is known.
* `Promotions`, `Resolving`: the state.
* `Shape`: a way to resolve a schema to its shape.
* `Resolver.finish`: what its use adds to a shape.
-/

namespace ApiModel

/-- Where a schema is used. -/
structure Usage where
  /-- Where it stands in the contract. -/
  location : String
  /-- Whether it must be present, for fields and parameters. -/
  required : Option Bool := none
  /-- The name of an object schema that is promoted here. -/
  inlineName : String
  /-- The name of an enum that is declared here. -/
  enumName : String
  deriving DecidableEq, Repr

/-- A use of a schema on its own. -/
def Usage.standalone (location name : String) : Usage :=
  { location, inlineName := name, enumName := name }

/-- The nullability of a schema where it is used: what need not be present may be null. -/
def Usage.nullability (usage : Usage) (target : Schema) : Nullability :=
  match usage.required with
  | some required =>
    if target.nullableMarker = some true ∨ !required then .nullable else .nonNull
  | none => .ofMarker target.nullableMarker

/-- What is known while schemas are resolved. -/
structure Resolver where
  /-- The components of the contract. -/
  components : Components
  /-- The target platform. -/
  profile : Profile
  /-- The flags in effect. -/
  flags : Flags

/-- The models that have been promoted, and the names that are taken. -/
structure Promotions where
  /-- The promoted models in order. -/
  models : List Model := []
  /-- The names that are taken. -/
  names : Allocator := {}

/-- Resolving with promotions. What has been promoted before an error stays. -/
abbrev Resolving (α : Type) : Type := ExceptT ResolveError (StateM Promotions) α

instance : MonadLift (Except ResolveError) (ExceptT ResolveError (StateM Promotions)) :=
  ⟨fun e => ExceptT.mk (pure e)⟩

/-- A way to resolve a schema to its shape: what does not depend on whether it must be
present. -/
abbrev Shape : Type := Usage → SchemaNode → Resolving ResolvedType

namespace Promotions

/-- No promoted models. The names of the models of named schemas are taken. -/
def initial (c : Components) : Promotions where
  names := Allocator.empty.reserve (c.schemaNames.map fun n => (Name.ofText n).pascalCase)

/-- Takes a name for a promoted model. -/
def claim (base : String) : Resolving String :=
  modifyGet fun st => (st.names.grant base, { st with names := (st.names.claim base).2 })

/-- Adds a promoted model. -/
def push (model : Model) : Resolving Unit :=
  modify fun st => { st with models := st.models ++ [model] }

end Promotions

namespace Resolver

variable (r : Resolver)

/-- The type of any value. -/
def any : ResolvedType := .ofTarget r.profile.any .any

/-- What its use adds to the shape of a schema: nullability, and with it boxing, and a
default. -/
def finish (usage : Usage) (target : Schema) (shape : ResolvedType) : ResolvedType :=
  let nullability := usage.nullability target
  let type := { shape with nullability }
  let type :=
    if nullability = .nullable ∧ r.profile.boxNullablePrimitives then type.boxed else type
  { type with
    defaultValue := r.profile.resolveDefault target type (usage.required.getD false) }

/-- A schema where it is used. -/
def resolveWith (shape : Shape) (usage : Usage) (node : SchemaNode) :
    Resolving ResolvedType := do
  let type ← shape usage node
  let target ← r.components.target node
  return r.finish usage target type

end Resolver

end ApiModel
