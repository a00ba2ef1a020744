import ApiModel.Resolution.Enum

/-!
# Defaults

A declared default becomes a literal of the target platform, if it has one there. Without a
declared default, an array that must be present and cannot be null is empty.

## Main definitions

* `Profile.declaredDefault`: a declared default.
* `Profile.resolveDefault`: the default of a schema where it is used.
-/

namespace ApiModel.Profile

variable (p : Profile)

/-- A default that the contract declares. -/
def declare (literal : String) (imports : List String) : DefaultValue :=
  { literal, origin := .declared, imports }

/-- The literal of the member of an enum that has a value. -/
def memberLiteral (value : Json.Value) (typeName : String) (e : EnumType) : Option String :=
  (e.members.find? fun m => !m.fallback && m.value == value).map fun m =>
    p.enumReference typeName m.identifier

/-- The literal of an element of an array. -/
def elementLiteral (element : ResolvedType) (value : Json.Value) : Option String :=
  match element.kind with
  | .enum e => p.memberLiteral value element.name e
  | _ => p.scalarLiteral value (some element.name)

/-- A declared default for an array. -/
def declaredArray (element : ResolvedType) : Json.Value → Option DefaultValue
  | .array [] => p.array.emptyLiteral.map (declare · p.array.emptyImports)
  | .array items => do
    let template ← p.array.literalTemplate
    let elements ← items.mapM (p.elementLiteral element)
    return declare (fill template (", ".intercalate elements)) p.array.literalImports
  | _ => none

/-- A declared default for a map, which must be empty. -/
def declaredMap : Json.Value → Option DefaultValue
  | .object [] => p.map.emptyLiteral.map (declare · p.map.emptyImports)
  | _ => none

/-- A declared default as a literal. The default of a reference to an enum is one of its
members. -/
def declaredDefault (value : Json.Value) (s : Schema) (type : ResolvedType) :
    Option DefaultValue :=
  if value.isNull then some (declare p.literals.null [])
  else
    match type.kind with
    | .array element => p.declaredArray element value
    | .map _ => p.declaredMap value
    | .enum e => (p.memberLiteral value type.name e).map (declare · [])
    | .model name =>
      if s.isEnum then
        ((p.enumIdentifiers s.enumValues).find? fun e => e.1 == value).map fun e =>
          declare (p.enumReference name e.2) []
      else (p.scalarLiteral value (some type.name)).map (declare · [])
    | _ => (p.scalarLiteral value (some type.name)).map (declare · [])

/-- The default of an array that must be present and cannot be null. -/
def emptyDefault (type : ResolvedType) (required : Bool) : Option DefaultValue :=
  if type.container = .array ∧ required ∧ type.nullability = .nonNull then
    p.array.emptyLiteral.map fun literal =>
      { literal, origin := .emptyContainer, imports := p.array.emptyImports }
  else none

/-- The default of a schema where it is used with a type. -/
def resolveDefault (s : Schema) (type : ResolvedType) (required : Bool) :
    Option DefaultValue :=
  match s.defaultValue with
  | some value => p.declaredDefault value s type
  | none => p.emptyDefault type required

end ApiModel.Profile
