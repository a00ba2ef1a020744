import ApiModel.Contract.Schema
import ApiModel.Name.Basic
import ApiModel.Target.Type
import ApiModel.Text.Substitution

/-!
# Profiles of target platforms

A profile is all that is particular to a target platform: which of its types a type and
format of the contract become, how containers and literals are written, and how names are
made.

## Main definitions

* `Profile`: a profile.
* `Profile.lookup`: the type of the platform for a type and format.
* `Profile.identifier`: a name as an identifier of the platform.
* `fill`: an item put into a template.
-/

namespace ApiModel

/-- A row of the table of types. -/
structure TypeRow where
  /-- The type of the contract. -/
  type : SchemaType
  /-- The format; none for a schema without format, `*` for any format. -/
  format : Option String := none
  /-- The type of the platform. -/
  target : TargetType
  deriving DecidableEq, Repr

/-- How a container is written. -/
structure ContainerSyntax where
  /-- The name of the container, with a place for the name of the element. -/
  template : String
  /-- The outermost type. -/
  target : TargetType
  /-- The literal of an empty container. -/
  emptyLiteral : Option String := none
  /-- What the literal of an empty container imports. -/
  emptyImports : List String := []
  /-- The literal of a container with elements, with a place for them. -/
  literalTemplate : Option String := none
  /-- What the literal of a container with elements imports. -/
  literalImports : List String := []
  deriving DecidableEq, Repr

/-- How a type is wrapped when it is delivered later. -/
structure WrapperSyntax where
  /-- The name of the wrapper, with a place for the name of the payload. -/
  template : String
  /-- The outermost type. -/
  target : TargetType
  deriving DecidableEq, Repr

/-- How literals are written. -/
structure LiteralSyntax where
  /-- What stands around texts. -/
  quote : Char := '"'
  /-- The literal of null. -/
  null : String
  /-- The literal of true. -/
  true : String
  /-- The literal of false. -/
  false : String
  /-- The literals of numbers by the name of their type, with a place for the number. -/
  numbers : List (String × String) := []
  /-- A member of an enum, with places for its type and its identifier. -/
  enumMember : String
  deriving DecidableEq, Repr

/-- How names are made. -/
structure NamingRules where
  /-- The casing of fields and parameters. -/
  fieldCase : NameCase
  /-- The casing of enum members. -/
  memberCase : NameCase
  /-- What follows the name of a group in its interface type. -/
  apiSuffix : String
  /-- What precedes an identifier that would not be allowed. -/
  reservedPrefix : String
  /-- The identifier of the fallback member of enums. -/
  fallbackMember : String
  deriving DecidableEq, Repr

/-- A profile of a target platform. -/
structure Profile where
  /-- The name of the platform. -/
  id : String
  /-- Where the copy of the contract is put by default. -/
  specLocation : String
  /-- The table of types. -/
  rows : List TypeRow
  /-- The type of any value. -/
  any : TargetType
  /-- The type of no value. -/
  void : TargetType
  /-- The generic response type. -/
  response : TargetType
  /-- How arrays are written. -/
  array : ContainerSyntax
  /-- How maps are written. -/
  map : ContainerSyntax
  /-- How types that are delivered later are wrapped. -/
  asyncWrapper : WrapperSyntax
  /-- How they are wrapped in the reactive manner. -/
  reactiveWrapper : Option WrapperSyntax := none
  /-- Whether what is delivered later must not be a primitive. -/
  asyncRequiresBoxed : Bool := false
  /-- Whether what may be null must not be a primitive. -/
  boxNullablePrimitives : Bool := false
  /-- Whether implementations return the generic response type. -/
  implementationReturnsResponse : Bool := false
  /-- What a model is imported as, with a place for its name. -/
  modelImport : Option String := none
  /-- Whether the files of models need not import each other. -/
  modelsShareNamespace : Bool := false
  /-- How literals are written. -/
  literals : LiteralSyntax
  /-- How names are made. -/
  naming : NamingRules
  /-- The words that are no identifiers. -/
  reservedWords : List String := []
  deriving DecidableEq, Repr

/-- Puts an item into the places of a template. -/
def fill (template item : String) : String := Text.substitute template "\x7bitem\x7d" item

namespace Profile

variable (p : Profile)

/-- The type of the platform for a type and format: the row of exactly the format, or else
the row of any format. -/
def lookup (type : SchemaType) (format : Option String) : Option TargetType :=
  let find (wanted : Option String) : Option TypeRow :=
    p.rows.find? fun row => row.type = type && row.format == wanted
  ((find format).or (find (some "*"))).map TypeRow.target

/-- Whether a text is a reserved word. -/
def isReserved (identifier : String) : Bool := p.reservedWords.contains identifier

/-- Whether a text starts with a digit. -/
def startsWithDigit (text : String) : Bool := text.toList.head?.any Char.isDigit

/-- A name in a casing, made an identifier: reserved words and leading digits are preceded
by the prefix of the profile. -/
def identifier (name : Name) (rule : NameCase) : String :=
  let text := rule.pick name
  if startsWithDigit text || p.isReserved text then p.naming.reservedPrefix ++ text else text

/-- The interface type of a group. -/
def apiName (group : Name) : String := group.pascalCase ++ p.naming.apiSuffix

/-- What a model is imported as. -/
def importOfModel (model : String) : Option String := p.modelImport.map (fill · model)

end Profile

end ApiModel
