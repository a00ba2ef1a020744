import ApiModel.Resolution.Basic
import ApiModel.Resolution.Composition

/-!
# Building models

A model is built from an enum, a union, an all-of or an object, or is another name for what
its schema resolves to. The types inside are resolved by a given way, so that models can be
built both for named schemas and for promoted ones.

## Main definitions

* `Resolver.discriminator`, `Resolver.unionType`: unions.
* `Resolver.fields`: the fields of a model.
* `Resolver.buildModel`: a model.
* `Resolver.promote`: the model of a schema without a name.
-/

namespace ApiModel.Resolver

variable (r : Resolver)

/-! ### Unions -/

/-- The model that a value of a discriminator names by a pointer or a bare name. -/
def mappingTarget (target : String) : Except ResolveError String := do
  let name ← if target.toList.head? = some '#' then componentName "schemas" target else .ok target
  return (Name.ofText name).pascalCase

/-- The model that a branch names by its pointer. -/
def mappingOfPointer (pointer : String) : Except ResolveError (String × String) := do
  let name ← componentName "schemas" pointer
  return (name, (Name.ofText name).pascalCase)

/-- A discriminator. Without a mapping every branch that is a pointer is named by itself. -/
def discriminator (branches : List SchemaNode) (d : ContractDiscriminator) :
    Except ResolveError Discriminator := do
  let mapping ←
    if d.mapping.isEmpty then (branches.filterMap SchemaNode.pointer?).mapM mappingOfPointer
    else d.mapping.mapM fun (literal, target) => do return (literal, ← mappingTarget target)
  return { propertyName := d.propertyName, mapping }

/-- The branches of a union, and the keyword under which they stand. -/
def unionBranches (s : Schema) : String × List SchemaNode :=
  if s.oneOf.isEmpty then ("anyOf", s.anyOf) else ("oneOf", s.oneOf)

/-- How a branch of a union is used. -/
def branchUsage (usage : Usage) (keyword : String) (i : Nat) : Usage :=
  .standalone (usage.location ++ "/" ++ keyword ++ "/" ++ toString i)
    (usage.inlineName ++ "Option" ++ toString (i + 1))

/-- The union of the branches of a schema. -/
def unionType (shape : Shape) (usage : Usage) (s : Schema) :
    Resolving (UnionType ResolvedType) := do
  let (keyword, branches) := unionBranches s
  let members ← branches.zipIdx.mapM fun (branch, i) =>
    shape (branchUsage usage keyword i) branch
  let discriminator ← s.discriminator.mapM fun d =>
    (discriminator branches d : Except ResolveError Discriminator)
  return { members, discriminator }

/-! ### Fields -/

/-- How a property is used. -/
def propertyUsage (owner location : String) (name : String) (required : Bool) : Usage :=
  let pascal := (Name.ofText name).pascalCase
  { location
    required := some required
    inlineName := owner ++ pascal
    enumName := pascal ++ "Enum" }

/-- A field with the identifier that it asks for. -/
def field (shape : Shape) (owner location : String) (p : Property) : Resolving Field := do
  let usage :=
    propertyUsage owner (location ++ "/properties/" ++ p.name) p.name p.required
  let type ← r.resolveWith shape usage p.node
  let target ← r.components.target p.node
  return {
    property := p.name
    identifier := r.profile.identifier (Name.ofText p.name) r.profile.naming.fieldCase
    owner
    type
    required := p.required
    nullable := target.nullableMarker == some true
    readOnly := target.readOnly.getD false
    writeOnly := target.writeOnly.getD false
    description := p.node.schema?.bind SchemaBody.description
    constraints := target.constraints }

/-- The fields of properties, with unique identifiers. -/
def fields (shape : Shape) (owner location : String) (properties : List Property) :
    Resolving (List Field) := do
  let fields ← properties.mapM (r.field shape owner location)
  let identifiers := Allocator.uniqueNames (fields.map Field.identifier)
  return fields.zipWith (fun f identifier => { f with identifier }) identifiers

/-! ### Models -/

/-- Another name for what a schema resolves to. -/
def synonym (shape : Shape) (base : Model) (owner location : String) (node : SchemaNode) :
    Resolving Model := do
  let target ← r.resolveWith shape (.standalone location owner) node
  return { base with shape := .synonym target }

/-- An object with fields, and with a discriminator for the models that extend it. -/
def object (shape : Shape) (base : Model) (owner location : String)
    (properties : List Property) (d : Option ContractDiscriminator) : Resolving Model := do
  let fields ← r.fields shape owner location properties
  let discriminator ← d.mapM fun d =>
    (discriminator [] d : Except ResolveError Discriminator)
  return { base with fields, discriminator }

/-- The model of an all-of: another name for its lone branch, an extension of a parent, or
the merged branches. -/
def compose (shape : Shape) (base : Model) (owner location : String) (s : Schema) :
    Resolving Model := do
  match s.allOf, s.properties with
  | [branch], [] => r.synonym shape base owner location branch
  | _, _ =>
    match ← r.components.parentOf base.name.text s location with
    | some parent =>
      r.object shape { base with parent := some parent } owner location
        (inheritedProperties s) s.discriminator
    | none =>
      let merged ← r.components.merge location s
      match merged.kind, merged.value with
      | some (.value _), some value => r.synonym shape base owner location (.inline value)
      | some (.value _), none => return base
      | _, _ => r.object shape base owner location merged.toProperties merged.discriminator

/-- The model of a schema. -/
def buildModel (shape : Shape) (name : Name) (s : Schema) (location : String) :
    Resolving Model := do
  let owner := name.pascalCase
  let base : Model := { name, description := s.description }
  if s.isEnum then
    let e ← r.profile.enumType r.flags s location
    return { base with shape := .enum e }
  else if s.isUnion then
    let u ← unionType shape (.standalone location owner) s
    return { base with shape := .union u, discriminator := u.discriminator }
  else if !s.allOf.isEmpty then r.compose shape base owner location s
  else if s.hasProperties then
    r.object shape base owner location s.ownProperties s.discriminator
  else r.synonym shape base owner location (.inline s)

/-- Promotes a schema without a name to a model, and answers the name. The name is taken
before the model is built, and the model is added after the models inside it. -/
def promote (shape : Shape) (usage : Usage) (s : Schema) : Resolving String := do
  let name ← Promotions.claim usage.inlineName
  let model ← r.buildModel shape (Name.ofText name) s usage.location
  Promotions.push model
  return name

end ApiModel.Resolver
