import ApiModel.Json.Value

/-!
# Schemas of a contract

A schema position holds either a pointer to a named schema or a schema of its own. A schema
may say its type by one keyword or, in newer contracts, by a list of keywords in which
`null` marks it nullable.

## Main definitions

* `SchemaType`, `TypeSpec`: type keywords and how a schema gives them.
* `Constraints`: the validation constraints of a schema.
* `SchemaBody`, `SchemaNode`, `Schema`: a schema over its sub-schemas, a schema position, and
  a schema of its own.
* `SchemaBody.primaryType`, `SchemaBody.typeAlternatives`, `SchemaBody.nullableMarker`: what the
  type keywords say.
* `SchemaNode.size`: the number of schema positions below and including a position.

## Main results

* `SchemaNode.size_pos`: a position counts itself.
-/

namespace ApiModel

/-! ### Types -/

/-- A type keyword. -/
inductive SchemaType where
  | string
  | number
  | integer
  | boolean
  | array
  | object
  | null
  deriving DecidableEq, Repr, Inhabited

namespace SchemaType

/-- The keyword as contracts have it. -/
def text : SchemaType → String
  | string => "string"
  | number => "number"
  | integer => "integer"
  | boolean => "boolean"
  | array => "array"
  | object => "object"
  | null => "null"

/-- The type of a keyword. -/
def ofKeyword? : String → Option SchemaType
  | "string" => some string
  | "number" => some number
  | "integer" => some integer
  | "boolean" => some boolean
  | "array" => some array
  | "object" => some object
  | "null" => some null
  | _ => none

/-- The keywords in declaration order. -/
def keywords : List String :=
  ["string", "number", "integer", "boolean", "array", "object", "null"]

/-- Whether the values of a type have no parts. -/
def isPrimitive : SchemaType → Bool
  | string | number | integer | boolean => true
  | array | object | null => false

@[simp] theorem ofKeyword?_text (t : SchemaType) : ofKeyword? t.text = some t := by
  cases t <;> rfl

end SchemaType

/-- How a schema gives its type: by one keyword, or by a list of them. -/
inductive TypeSpec where
  | single (type : SchemaType)
  | several (types : List SchemaType)
  deriving DecidableEq, Repr

/-! ### Schemas -/

/-- The validation constraints of a schema. -/
structure Constraints where
  /-- The least number. -/
  minimum : Option Float := none
  /-- The greatest number. -/
  maximum : Option Float := none
  /-- A bound that numbers stay above. -/
  exclusiveMinimum : Option Float := none
  /-- A bound that numbers stay below. -/
  exclusiveMaximum : Option Float := none
  /-- The least length of a text. -/
  minLength : Option Nat := none
  /-- The greatest length of a text. -/
  maxLength : Option Nat := none
  /-- The pattern of a text. -/
  pattern : Option String := none
  /-- The least number of items. -/
  minItems : Option Nat := none
  /-- The greatest number of items. -/
  maxItems : Option Nat := none
  /-- Whether items must differ. -/
  uniqueItems : Option Bool := none
  deriving BEq, Repr, Inhabited

namespace Constraints

/-- No constraints. -/
def none : Constraints := {}

/-- Whether there is no constraint at all. -/
def isEmpty (c : Constraints) : Bool :=
  c.minimum.isNone && c.maximum.isNone && c.exclusiveMinimum.isNone &&
    c.exclusiveMaximum.isNone && c.minLength.isNone && c.maxLength.isNone &&
    c.pattern.isNone && c.minItems.isNone && c.maxItems.isNone && c.uniqueItems.isNone

@[simp] theorem isEmpty_none : none.isEmpty = true := rfl

end Constraints

/-- The discriminator of a union as the contract declares it. -/
structure ContractDiscriminator where
  /-- The property that tells the branches apart. -/
  propertyName : String
  /-- The schema for each value of the property, as a pointer or as a bare name. -/
  mapping : List (String × String) := []
  deriving DecidableEq, Repr

/-- What an object schema says about properties that it does not name. -/
inductive Additional (σ : Type) where
  | flag (allowed : Bool)
  | schema (values : σ)
  deriving Repr

/-- A schema whose sub-schemas are of type `σ`. -/
structure SchemaBody (σ : Type) where
  /-- The type keywords. -/
  type : Option TypeSpec := none
  /-- The format that refines a primitive type. -/
  format : Option String := none
  /-- A description for readers. -/
  description : Option String := none
  /-- The declared default. -/
  defaultValue : Option Json.Value := none
  /-- The nullable marker of older contracts. -/
  nullable : Option Bool := none
  /-- The named properties. -/
  properties : List (String × σ) := []
  /-- The names of the properties that must be present. -/
  required : List String := []
  /-- What holds for other properties. -/
  additionalProperties : Option (Additional σ) := none
  /-- The schema of the items of an array. -/
  items : Option σ := none
  /-- The branches that all hold. -/
  allOf : List σ := []
  /-- The branches of which one holds. -/
  oneOf : List σ := []
  /-- The branches of which some hold. -/
  anyOf : List σ := []
  /-- What tells the branches apart. -/
  discriminator : Option ContractDiscriminator := none
  /-- The values of an enum. -/
  enumValues : List Json.Value := []
  /-- The validation constraints. -/
  constraints : Constraints := {}
  /-- Whether the value is only sent. -/
  readOnly : Option Bool := none
  /-- Whether the value is only received. -/
  writeOnly : Option Bool := none

/-- A schema position: a pointer to a named schema, or a schema of its own. -/
inductive SchemaNode where
  | ref (pointer : String)
  | inline (schema : SchemaBody SchemaNode)

/-- A schema of its own. -/
abbrev Schema : Type := SchemaBody SchemaNode

namespace SchemaNode

/-- The schema of its own at a position. -/
def schema? : SchemaNode → Option Schema
  | inline s => some s
  | ref _ => none

/-- The pointer at a position. -/
def pointer? : SchemaNode → Option String
  | ref p => some p
  | inline _ => none

@[simp] theorem schema?_inline (s : Schema) : (inline s).schema? = some s := rfl

@[simp] theorem schema?_ref (p : String) : (ref p).schema? = none := rfl

@[simp] theorem pointer?_ref (p : String) : (ref p).pointer? = some p := rfl

@[simp] theorem pointer?_inline (s : Schema) : (inline s).pointer? = none := rfl

end SchemaNode

instance : Inhabited SchemaNode := ⟨.ref ""⟩

/-! ### Counting positions -/

mutual

/-- The number of schema positions below and including a position. -/
def SchemaNode.size : SchemaNode → Nat
  | .ref _ => 1
  | .inline s => sizeOfBody s + 1

/-- The number of positions below a schema. -/
def sizeOfBody : SchemaBody SchemaNode → Nat
  | { properties, additionalProperties, items, allOf, oneOf, anyOf, .. } =>
    sizeOfProperties properties + sizeOfAdditional additionalProperties + sizeOfItems items +
      sizeOfBranches allOf + sizeOfBranches oneOf + sizeOfBranches anyOf

/-- The number of positions of named properties. -/
def sizeOfProperties : List (String × SchemaNode) → Nat
  | [] => 0
  | (_, p) :: rest => p.size + sizeOfProperties rest

/-- The number of positions of other properties. -/
def sizeOfAdditional : Option (Additional SchemaNode) → Nat
  | some (.schema s) => s.size
  | _ => 0

/-- The number of positions of items. -/
def sizeOfItems : Option SchemaNode → Nat
  | some s => s.size
  | none => 0

/-- The number of positions of branches. -/
def sizeOfBranches : List SchemaNode → Nat
  | [] => 0
  | s :: rest => s.size + sizeOfBranches rest

end

/-- A position counts itself. -/
theorem SchemaNode.size_pos (s : SchemaNode) : 0 < s.size := by
  cases s <;> simp [SchemaNode.size]

namespace SchemaBody

/-! ### What the type keywords say -/

variable (s : Schema)

/-- The single type keyword besides `null`, if there is one. A list that holds `null` alone
says `null`. -/
def primaryType : Option SchemaType :=
  match s.type with
  | none => none
  | some (.single t) => some t
  | some (.several types) =>
    match types.filter (· ≠ .null) with
    | [t] => some t
    | [] => if types.contains .null then some .null else none
    | _ => none

/-- The type keywords of which one holds, in order, without `null` in a list. -/
def typeAlternatives : List SchemaType :=
  match s.type with
  | none => []
  | some (.single t) => [t]
  | some (.several types) => types.filter (· ≠ .null)

/-- Whether the schema is marked nullable, by `null` in its type list or by its marker. -/
def nullableMarker : Option Bool :=
  match s.type with
  | some (.several types) => if types.contains .null then some true else s.nullable
  | _ => s.nullable

/-- Whether the schema has branches. -/
def isComposed : Bool := !s.allOf.isEmpty || !s.oneOf.isEmpty || !s.anyOf.isEmpty

/-- Whether the schema has branches of which one or some hold. -/
def isUnion : Bool := !s.oneOf.isEmpty || !s.anyOf.isEmpty

/-- Whether the schema is an enum. -/
def isEnum : Bool := !s.enumValues.isEmpty

/-- Whether the schema is an object with named properties, by its type or without one. -/
def hasProperties : Bool :=
  !s.properties.isEmpty && (s.primaryType == some .object || s.primaryType == none)

/-- Whether a property must be present. -/
def isRequired (property : String) : Bool := s.required.contains property

/-- Whether references to the schema stay references: it is an object, an enum or has
branches. -/
def isModel : Bool := s.hasProperties || s.isComposed || s.isEnum

/-! ### Sub-schemas are smaller -/

theorem size_items_le {i : SchemaNode} (h : s.items = some i) : i.size ≤ sizeOfBody s := by
  obtain ⟨⟩ := s
  simp only at h
  subst h
  simp only [sizeOfBody, sizeOfItems]
  omega

theorem size_additional_le {v : SchemaNode} (h : s.additionalProperties = some (.schema v)) :
    v.size ≤ sizeOfBody s := by
  obtain ⟨⟩ := s
  simp only at h
  subst h
  simp only [sizeOfBody, sizeOfAdditional]
  omega

theorem size_allOf_le : sizeOfBranches s.allOf ≤ sizeOfBody s := by
  obtain ⟨⟩ := s
  simp only [sizeOfBody]
  omega

end SchemaBody

theorem size_le_sizeOfBranches {b : SchemaNode} {branches : List SchemaNode}
    (h : b ∈ branches) : b.size ≤ sizeOfBranches branches := by
  induction branches with
  | nil => cases h
  | cons c rest ih =>
    simp only [sizeOfBranches]
    rcases List.mem_cons.mp h with rfl | h
    · omega
    · have := ih h
      omega

namespace SchemaNode

/-- Whether references to the position stay references. A position that is itself a pointer
is followed. -/
def isModel : SchemaNode → Bool
  | inline s => s.isModel
  | ref _ => false

@[simp] theorem isModel_ref (p : String) : (ref p).isModel = false := rfl

@[simp] theorem isModel_inline (s : Schema) : (inline s).isModel = s.isModel := rfl

end SchemaNode

end ApiModel
