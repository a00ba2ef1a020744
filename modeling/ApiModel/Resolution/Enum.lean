import ApiModel.Name.Allocator
import ApiModel.Resolution.Error
import ApiModel.Resolution.Literal
import ApiModel.Settings.Flags
import ApiModel.Text.Substitution

/-!
# Enums

The members of an enum are its values besides null, in order. Their identifiers are unique;
a fallback member may stand for all other values.

## Main definitions

* `Profile.enumIdentifiers`: the values of an enum with their identifiers.
* `Profile.primitive`: the type of a primitive.
* `Profile.enumType`: the enum of a schema.
-/

namespace ApiModel

/-- The text from which the identifier of a member is made. -/
def memberBase : Json.Value → String
  | .text s => if s.isEmpty then "empty" else s
  | .number n =>
    "number_" ++ Text.substitute (Text.substitute n.text "-" "minus_") "." "_dot_"
  | value => value.compact

namespace Profile

variable (p : Profile)

/-- The identifier that a value asks for. -/
def memberIdentifier (value : Json.Value) : String :=
  p.identifier (Name.ofText (memberBase value)) p.naming.memberCase

/-- The values of an enum besides null, with unique identifiers. -/
def enumIdentifiers (values : List Json.Value) : List (Json.Value × String) :=
  let present := values.filter fun v => !v.isNull
  present.zip (Allocator.uniqueNames (present.map p.memberIdentifier))

/-- The type of a primitive of a format. -/
def primitive (type : SchemaType) (format : Option String) (location : String) :
    Except ResolveError ResolvedType :=
  match p.lookup type format with
  | some target => .ok (.ofTarget target .primitive)
  | none => .error (.unmapped location p.id type format)

/-- The name of the type of the values of an enum, when it is a primitive. -/
def memberTypeName (s : Schema) (location : String) : Except ResolveError (Option String) :=
  match s.primaryType with
  | some t =>
    if t.isPrimitive then (p.primitive t s.format location).map fun t => some t.name
    else .ok none
  | none => .ok none

/-- A member of an enum. -/
def member (typeName : Option String) (location : String) (entry : Json.Value × String) :
    Except ResolveError EnumMember :=
  match p.scalarLiteral entry.1 typeName with
  | some literal =>
    .ok { value := entry.1, identifier := entry.2, literal, fallback := false }
  | none => .error (.malformed location (.noLiteral entry.1))

/-- The member that stands for all other values. -/
def fallbackMember (members : List EnumMember) : EnumMember :=
  let taken := Allocator.empty.reserve (members.map EnumMember.identifier)
  { value := .null
    identifier := taken.grant p.naming.fallbackMember
    literal := p.literals.null
    fallback := true }

/-- The enum of a schema. -/
def enumType (flags : Flags) (s : Schema) (location : String) :
    Except ResolveError EnumType := do
  let typeName ← p.memberTypeName s location
  let members ← (p.enumIdentifiers s.enumValues).mapM (p.member typeName location)
  if flags.enumUnknownDefaultCase then
    return { members := members ++ [p.fallbackMember members], unknown := .fallback }
  else
    return { members, unknown := .fail }

end Profile

end ApiModel
