import ApiModel.Json.Value

/-!
# Types of a target platform

What a schema becomes on a target platform: a type with its rendered name, together with
what the renderer has to know about it.

## Main definitions

* `TargetType`: a type of the platform.
* `EnumType`, `UnionType`, `TypeKind`, `ResolvedType`: resolved types.
* `ResolvedType.boxed`: the object equivalent of a primitive.
-/

namespace ApiModel

/-- A type of the target platform. -/
structure TargetType where
  /-- Its name. -/
  name : String
  /-- What has to be imported for it. -/
  importName : Option String := none
  /-- Whether it is a primitive, which cannot be null and cannot be an element. -/
  primitive : Bool := false
  /-- The object equivalent of a primitive. -/
  boxed : Option String := none
  deriving DecidableEq, Repr, Inhabited

/-- A type that is known by its name only. -/
def TargetType.named (name : String) : TargetType := { name }

/-- Whether a value may be null. -/
inductive Nullability where
  | nullable
  | nonNull
  | unknown
  deriving DecidableEq, Repr, Inhabited

/-- The nullability that a marker of the contract says. -/
def Nullability.ofMarker : Option Bool → Nullability
  | some true => nullable
  | some false => nonNull
  | none => unknown

/-- Where a default comes from. -/
inductive DefaultOrigin where
  | declared
  | emptyContainer
  deriving DecidableEq, Repr

/-- A default in the syntax of the target platform. -/
structure DefaultValue where
  /-- The literal. -/
  literal : String
  /-- Where it comes from. -/
  origin : DefaultOrigin
  /-- What has to be imported for the literal. -/
  imports : List String := []
  deriving DecidableEq, Repr

/-- A member of an enum. -/
structure EnumMember where
  /-- The value in the contract; null for the fallback. -/
  value : Json.Value
  /-- The identifier. -/
  identifier : String
  /-- The value as a literal. -/
  literal : String
  /-- Whether it stands for the values that the contract does not list. -/
  fallback : Bool
  deriving BEq

/-- What happens to a value that is no member of an enum. -/
inductive UnknownValue where
  | fail
  | fallback
  deriving DecidableEq, Repr

/-- An enum. -/
structure EnumType where
  /-- The members in order. -/
  members : List EnumMember
  /-- What happens to other values. -/
  unknown : UnknownValue
  deriving BEq

/-- What tells the members of a union apart. -/
structure Discriminator where
  /-- The property that does so. -/
  propertyName : String
  /-- The model for each of its values. -/
  mapping : List (String × String)
  deriving DecidableEq, Repr

/-- A union of types. -/
structure UnionType (τ : Type) where
  /-- The members in order. -/
  members : List τ
  /-- What tells them apart. -/
  discriminator : Option Discriminator
  deriving BEq

/-- What a type is, over the types inside it. -/
inductive TypeKind (τ : Type) where
  | primitive
  | any
  | void
  | response
  | model (name : String)
  | enum (type : EnumType)
  | union (type : UnionType τ)
  | array (element : τ)
  | map (value : τ)
  | async (payload : τ)

/-- A type resolved for a target platform. -/
structure ResolvedType where
  /-- The rendered name. -/
  name : String
  /-- The outermost type of the platform. -/
  target : TargetType
  /-- What it is. -/
  kind : TypeKind ResolvedType
  /-- Whether a value may be null. -/
  nullability : Nullability := .unknown
  /-- The default. -/
  defaultValue : Option DefaultValue := none

mutual

/-- Whether two types are equal. -/
def ResolvedType.beq : ResolvedType → ResolvedType → Bool
  | ⟨name, target, kind, nullability, default⟩, ⟨name', target', kind', nullability', default'⟩ =>
    name == name' && target == target' && beqKind kind kind' && nullability == nullability' &&
      default == default'

/-- Whether two types are the same in what they are. -/
def beqKind : TypeKind ResolvedType → TypeKind ResolvedType → Bool
  | .primitive, .primitive => true
  | .any, .any => true
  | .void, .void => true
  | .response, .response => true
  | .model a, .model b => a == b
  | .enum a, .enum b => a == b
  | .union ⟨xs, d⟩, .union ⟨ys, e⟩ => beqMembers xs ys && d == e
  | .array a, .array b => a.beq b
  | .map a, .map b => a.beq b
  | .async a, .async b => a.beq b
  | _, _ => false

/-- Whether two unions have equal members. -/
def beqMembers : List ResolvedType → List ResolvedType → Bool
  | [], [] => true
  | t :: ts, u :: us => t.beq u && beqMembers ts us
  | _, _ => false

end

instance : BEq ResolvedType := ⟨ResolvedType.beq⟩

/-- How many values a type holds. -/
inductive Container where
  | scalar
  | array
  | map
  deriving DecidableEq, Repr

namespace ResolvedType

/-- A type whose rendered name is the name of its target. -/
def ofTarget (target : TargetType) (kind : TypeKind ResolvedType) : ResolvedType :=
  { name := target.name, target, kind }

/-- A reference to a model. -/
def ofModel (name : String) : ResolvedType := ofTarget (.named name) (.model name)

/-- How many values the type holds. -/
def container (t : ResolvedType) : Container :=
  match t.kind with
  | .array _ => .array
  | .map _ => .map
  | _ => .scalar

/-- Whether the type is a primitive of the platform. -/
def isPrimitive (t : ResolvedType) : Bool := t.target.primitive

/-- The model that the type refers to. -/
def model? (t : ResolvedType) : Option String :=
  match t.kind with
  | .model name => some name
  | _ => none

/-- The object equivalent of a primitive; every other type is left as it is. -/
def boxed (t : ResolvedType) : ResolvedType :=
  match t.target.primitive, t.target.boxed with
  | true, some name => { t with name, target := .named name }
  | _, _ => t

instance : Inhabited ResolvedType := ⟨ofTarget default .any⟩

/-- What is no primitive has no other object equivalent than itself. -/
theorem boxed_eq_self {t : ResolvedType} (h : t.target.primitive = false) : t.boxed = t := by
  unfold boxed
  rw [h]

@[simp] theorem kind_boxed (t : ResolvedType) : t.boxed.kind = t.kind := by
  unfold boxed
  split <;> rfl

@[simp] theorem kind_ofTarget (target : TargetType) (kind : TypeKind ResolvedType) :
    (ofTarget target kind).kind = kind := rfl

end ResolvedType

end ApiModel
