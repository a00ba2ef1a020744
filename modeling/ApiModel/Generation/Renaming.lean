import ApiModel.Profile.Basic
import ApiModel.Target.Operation

/-!
# Renaming models

Every reference to a model is replaced at once, and the names of the containers around it
are rendered again.

## Main definitions

* `Renames`: new names for models.
* `Renames.type`, `Renames.model`, `Renames.operation`: what refers to the models.
-/

namespace ApiModel

/-- New names for models, the latest first. -/
abbrev Renames : Type := List (String × String)

namespace Renames

variable (renames : Renames) (p : Profile)

/-- The new name of a model. -/
def of (name : String) : String := (renames.lookup name).getD name

/-- The targets of a discriminator under their new names. -/
def discriminator (d : Discriminator) : Discriminator :=
  { d with mapping := d.mapping.map fun (value, target) => (value, renames.of target) }

/-- How a type is wrapped, by its target. -/
def wrapperOf (target : TargetType) : WrapperSyntax :=
  if target = p.asyncWrapper.target then p.asyncWrapper
  else p.reactiveWrapper.getD p.asyncWrapper

mutual

/-- A type under the new names. -/
def type : ResolvedType → ResolvedType
  | ⟨name, target, kind, nullability, default⟩ =>
    match kind with
    | .model model =>
      match renames.lookup model with
      | some new => ⟨new, { target with name := new }, .model new, nullability, default⟩
      | none => ⟨name, target, .model model, nullability, default⟩
    | .array inner =>
      let inner := type inner
      ⟨fill p.array.template inner.name, target, .array inner, nullability, default⟩
    | .map inner =>
      let inner := type inner
      ⟨fill p.map.template inner.name, target, .map inner, nullability, default⟩
    | .async inner =>
      let inner := type inner
      ⟨fill (wrapperOf p target).template inner.name, target, .async inner, nullability,
        default⟩
    | .union ⟨members, d⟩ =>
      ⟨name, target, .union ⟨types members, d.map renames.discriminator⟩, nullability, default⟩
    | other => ⟨name, target, other, nullability, default⟩

/-- Several types under the new names. -/
def types : List ResolvedType → List ResolvedType
  | [] => []
  | t :: rest => type t :: types rest

end

/-- A field under the new names. -/
def field (f : Field) : Field := { f with type := renames.type p f.type }

/-- The shape of a model under the new names. -/
def shape : ModelShape → ModelShape
  | .synonym target => .synonym (renames.type p target)
  | .union u =>
    .union ⟨renames.types p u.members, u.discriminator.map renames.discriminator⟩
  | .object => .object
  | .enum e => .enum e

/-- A model with its references under the new names; its own name stays. -/
def model (m : Model) : Model :=
  if renames.isEmpty then m
  else
    { m with
      fields := m.fields.map (renames.field p)
      shape := renames.shape p m.shape
      discriminator := m.discriminator.map renames.discriminator
      parent := m.parent.map renames.of }

/-- A response under the new names. -/
def response : ResponseType → ResponseType
  | .content type => .content (renames.type p type)
  | .noContent => .noContent

/-- An operation under the new names. -/
def operation (op : ApiOperation) : ApiOperation :=
  if renames.isEmpty then op
  else
    { op with
      parameters := op.parameters.map fun q => { q with type := renames.type p q.type }
      requestBody := op.requestBody.map fun b => { b with type := renames.type p b.type }
      response := renames.response p op.response
      shape := { op.shape with returnType := renames.type p op.shape.returnType } }

end Renames

end ApiModel
