import ApiModel.Proofs.Contract.Positions
import ApiModel.Proofs.Lists

/-!
# Spellings of types

Newer contracts may list the type keywords of a schema, with `null` among them, where older ones
have one keyword and a marker. A schema says the same in either spelling. The *plain* spelling has
one keyword and a marker wherever a list holds one keyword besides `null`, so it is the same for a
schema and for all that it may be spelled as.

## Main definitions

* `TypeSpelling`: a type and a marker, and the lists that stand for them.
* `SchemaNode.Respelled`: a position in which the types of any positions are spelled anew.
* `SchemaNode.plain`: the plain spelling of a position.

## Main results

* `SchemaBody.primaryType_plain`, `SchemaBody.typeAlternatives_plain`,
  `SchemaBody.nullableMarker_plain`: what the type keywords say does not hang on the spelling.
* `SchemaNode.Respelled.plain_eq`: spellings of one position have one plain spelling.
-/

namespace ApiModel

/-! ### Spelling anew -/

/-- A type and a marker, and what may stand for them: a keyword with the marker `true` becomes a
list of the keyword and `null`, and a keyword without it becomes a list of its own. -/
inductive TypeSpelling : Option TypeSpec → Option Bool → Option TypeSpec → Option Bool → Prop
  | same (type : Option TypeSpec) (marker : Option Bool) : TypeSpelling type marker type marker
  | listed {t : SchemaType} {marker : Option Bool} (ht : t ≠ .null) (hmarker : marker ≠ some true) :
      TypeSpelling (some (.single t)) marker (some (.several [t])) marker
  | nullLast {t : SchemaType} (ht : t ≠ .null) :
      TypeSpelling (some (.single t)) (some true) (some (.several [t, .null])) none
  | nullFirst {t : SchemaType} (ht : t ≠ .null) :
      TypeSpelling (some (.single t)) (some true) (some (.several [.null, t])) none

/-- What holds for other properties, with related positions. -/
inductive Additional.Rel {σ τ : Type} (R : σ → τ → Prop) : Additional σ → Additional τ → Prop
  | flag (allowed : Bool) : Rel R (flag allowed) (flag allowed)
  | schema {a : σ} {b : τ} (h : R a b) : Rel R (schema a) (schema b)

/-- A position in which the types of any positions, at any depth, are spelled anew. -/
inductive SchemaNode.Respelled : SchemaNode → SchemaNode → Prop
  | ref (pointer : String) : Respelled (ref pointer) (ref pointer)
  | inline {s : Schema} {type : Option TypeSpec} {nullable : Option Bool}
      {properties : List (String × SchemaNode)}
      {additionalProperties : Option (Additional SchemaNode)} {items : Option SchemaNode}
      {allOf oneOf anyOf : List SchemaNode}
      (htype : TypeSpelling s.type s.nullable type nullable)
      (hproperties : List.Forall₂ (Keyed Respelled) s.properties properties)
      (hadditional : Option.Rel (Additional.Rel Respelled) s.additionalProperties
        additionalProperties)
      (hitems : Option.Rel Respelled s.items items)
      (hallOf : List.Forall₂ Respelled s.allOf allOf)
      (honeOf : List.Forall₂ Respelled s.oneOf oneOf)
      (hanyOf : List.Forall₂ Respelled s.anyOf anyOf) :
      Respelled (inline s) (inline
        { s with type, nullable, properties, additionalProperties, items, allOf, oneOf, anyOf })

/-! ### The plain spelling -/

/-- The plain spelling of type keywords: one keyword where a list has one besides `null`. -/
def TypeSpec.plain : TypeSpec → TypeSpec
  | single t => single t
  | several types =>
    match types.filter (· ≠ .null) with
    | [t] => single t
    | _ => several types

/-- Either the plain spelling is the one there is, or a list has one keyword besides `null`. -/
theorem TypeSpec.plain_cases (spec : TypeSpec) : spec.plain = spec ∨
    ∃ types t, spec = several types ∧ types.filter (· ≠ .null) = [t] ∧ spec.plain = single t := by
  cases spec with
  | single t => exact .inl rfl
  | several types =>
    rw [plain]
    split
    next t h => exact .inr ⟨types, t, rfl, h, rfl⟩
    next => exact .inl rfl

mutual

/-- The plain spelling of a position. -/
def SchemaNode.plain : SchemaNode → SchemaNode
  | .ref pointer => .ref pointer
  | .inline s => .inline s.plain

/-- The plain spelling of a schema. -/
def SchemaBody.plain : SchemaBody SchemaNode → SchemaBody SchemaNode
  | s@{ type, properties, additionalProperties, items, allOf, oneOf, anyOf, .. } =>
    { s with
      type := type.map TypeSpec.plain
      nullable := s.nullableMarker
      properties := plainProperties properties
      additionalProperties := plainAdditional additionalProperties
      items := plainItems items
      allOf := plainBranches allOf
      oneOf := plainBranches oneOf
      anyOf := plainBranches anyOf }

/-- The plain spelling of named properties. -/
def plainProperties : List (String × SchemaNode) → List (String × SchemaNode)
  | [] => []
  | (name, p) :: rest => (name, p.plain) :: plainProperties rest

/-- The plain spelling of what holds for other properties. -/
def plainAdditional : Option (Additional SchemaNode) → Option (Additional SchemaNode)
  | some (.schema s) => some (.schema s.plain)
  | some (.flag allowed) => some (.flag allowed)
  | none => none

/-- The plain spelling of items. -/
def plainItems : Option SchemaNode → Option SchemaNode
  | some s => some s.plain
  | none => none

/-- The plain spelling of branches. -/
def plainBranches : List SchemaNode → List SchemaNode
  | [] => []
  | s :: rest => s.plain :: plainBranches rest

end

/-- What holds for other properties, with another position. -/
def Additional.map {σ τ : Type} (f : σ → τ) : Additional σ → Additional τ
  | flag allowed => flag allowed
  | schema values => schema (f values)

theorem plainProperties_eq (properties : List (String × SchemaNode)) :
    plainProperties properties = properties.map (Prod.map id SchemaNode.plain) := by
  induction properties with
  | nil => rfl
  | cons e rest ih => rw [plainProperties, ih, List.map_cons, Prod.map, id]

theorem plainAdditional_eq (additional : Option (Additional SchemaNode)) :
    plainAdditional additional = additional.map (Additional.map SchemaNode.plain) := by
  rcases additional with _ | _ | _ <;> rfl

theorem plainItems_eq (items : Option SchemaNode) :
    plainItems items = items.map SchemaNode.plain := by
  cases items <;> rfl

theorem plainBranches_eq (branches : List SchemaNode) :
    plainBranches branches = branches.map SchemaNode.plain := by
  induction branches with
  | nil => rfl
  | cons b rest ih => rw [plainBranches, ih, List.map_cons]

namespace SchemaNode

variable (node : SchemaNode)

@[simp] theorem plain_ref (pointer : String) : (ref pointer).plain = ref pointer := rfl

@[simp] theorem plain_inline (s : Schema) : (inline s).plain = inline s.plain := rfl

@[simp] theorem pointer?_plain : node.plain.pointer? = node.pointer? := by
  cases node <;> rfl

@[simp] theorem schema?_plain : node.plain.schema? = node.schema?.map SchemaBody.plain := by
  cases node <;> rfl

end SchemaNode

namespace SchemaBody

variable (s : Schema)

/-! ### The fields of the plain spelling -/

theorem plain_eq : s.plain =
    { s with
      type := s.type.map TypeSpec.plain
      nullable := s.nullableMarker
      properties := s.properties.map (Prod.map id SchemaNode.plain)
      additionalProperties := s.additionalProperties.map (Additional.map SchemaNode.plain)
      items := s.items.map SchemaNode.plain
      allOf := s.allOf.map SchemaNode.plain
      oneOf := s.oneOf.map SchemaNode.plain
      anyOf := s.anyOf.map SchemaNode.plain } := by
  obtain ⟨⟩ := s
  simp only [plain, plainProperties_eq, plainAdditional_eq, plainItems_eq, plainBranches_eq]

@[simp] theorem format_plain : s.plain.format = s.format := by rw [plain_eq]

@[simp] theorem description_plain : s.plain.description = s.description := by rw [plain_eq]

@[simp] theorem defaultValue_plain : s.plain.defaultValue = s.defaultValue := by rw [plain_eq]

@[simp] theorem properties_plain :
    s.plain.properties = s.properties.map (Prod.map id SchemaNode.plain) := by rw [plain_eq]

@[simp] theorem required_plain : s.plain.required = s.required := by rw [plain_eq]

@[simp] theorem additionalProperties_plain : s.plain.additionalProperties =
    s.additionalProperties.map (Additional.map SchemaNode.plain) := by rw [plain_eq]

@[simp] theorem items_plain : s.plain.items = s.items.map SchemaNode.plain := by rw [plain_eq]

@[simp] theorem allOf_plain : s.plain.allOf = s.allOf.map SchemaNode.plain := by rw [plain_eq]

@[simp] theorem oneOf_plain : s.plain.oneOf = s.oneOf.map SchemaNode.plain := by rw [plain_eq]

@[simp] theorem anyOf_plain : s.plain.anyOf = s.anyOf.map SchemaNode.plain := by rw [plain_eq]

@[simp] theorem discriminator_plain : s.plain.discriminator = s.discriminator := by
  rw [plain_eq]

@[simp] theorem enumValues_plain : s.plain.enumValues = s.enumValues := by rw [plain_eq]

@[simp] theorem constraints_plain : s.plain.constraints = s.constraints := by rw [plain_eq]

@[simp] theorem readOnly_plain : s.plain.readOnly = s.readOnly := by rw [plain_eq]

@[simp] theorem writeOnly_plain : s.plain.writeOnly = s.writeOnly := by rw [plain_eq]

/-! ### What the type keywords say -/

@[simp] theorem primaryType_plain : s.plain.primaryType = s.primaryType := by
  rw [plain_eq, primaryType, primaryType]
  rcases s.type with _ | spec
  · rfl
  · rcases spec.plain_cases with h | ⟨types, t, rfl, hfilter, h⟩ <;> rw [Option.map_some, h]
    simp only [hfilter]

@[simp] theorem typeAlternatives_plain : s.plain.typeAlternatives = s.typeAlternatives := by
  rw [plain_eq, typeAlternatives, typeAlternatives]
  rcases s.type with _ | spec
  · rfl
  · rcases spec.plain_cases with h | ⟨types, t, rfl, hfilter, h⟩ <;> rw [Option.map_some, h]
    simp only [hfilter]

@[simp] theorem nullableMarker_plain : s.plain.nullableMarker = s.nullableMarker := by
  rw [plain_eq, nullableMarker, nullableMarker]
  rcases s.type with _ | spec
  · rfl
  · rcases spec.plain_cases with h | ⟨types, t, rfl, hfilter, h⟩ <;> rw [Option.map_some, h]
    cases spec with
    | single t => rfl
    | several types =>
      dsimp only
      split <;> rfl

/-! ### The positions of the plain spelling -/

theorem parts_plain : s.plain.parts = s.parts.map SchemaNode.plain := by
  simp only [parts, properties_plain, additionalProperties_plain, items_plain, allOf_plain,
    oneOf_plain, anyOf_plain, List.map_append, List.map_map]
  rcases s.additionalProperties with _ | _ | _ <;> cases s.items <;> rfl

end SchemaBody

/-- A position has as many positions as its plain spelling. -/
@[simp] theorem SchemaNode.size_plain (node : SchemaNode) : node.plain.size = node.size := by
  induction node using SchemaNode.induction with
  | ref pointer => rfl
  | inline s ih =>
    rw [plain_inline, size_inline, size_inline, SchemaBody.parts_plain, sizeOfBranches_map ih]

/-! ### Spellings of one position -/

theorem TypeSpelling.plain_eq {type type' : Option TypeSpec} {marker marker' : Option Bool}
    (h : TypeSpelling type marker type' marker') :
    type.map TypeSpec.plain = type'.map TypeSpec.plain := by
  cases h with
  | same => rfl
  | listed ht | nullLast ht | nullFirst ht => simp [TypeSpec.plain, ht]

theorem TypeSpelling.nullableMarker_eq {s s' : Schema}
    (h : TypeSpelling s.type s.nullable s'.type s'.nullable) :
    s.nullableMarker = s'.nullableMarker := by
  rw [SchemaBody.nullableMarker, SchemaBody.nullableMarker]
  generalize s.type = type, s.nullable = marker, s'.type = type', s'.nullable = marker' at h
  cases h with
  | same => rfl
  | listed ht => simp [ht.symm]
  | nullLast | nullFirst => simp

/-- Spellings of one position have one plain spelling. -/
theorem SchemaNode.Respelled.plain_eq {node node' : SchemaNode} (h : node.Respelled node') :
    node.plain = node'.plain := by
  induction node using SchemaNode.induction generalizing node' with
  | ref pointer =>
    cases h
    rfl
  | inline s ih =>
    cases h with
    | inline htype hproperties hadditional hitems hallOf honeOf hanyOf =>
      -- The induction is on the old spelling: its parts agree with those that stand in their place.
      have agree {part part' : SchemaNode} (h : part.Respelled part')
          (hpart : part ∈ s.parts) : part.plain = part'.plain := ih part hpart h
      simp only [SchemaBody.mem_parts] at agree
      simp only [plain_inline, SchemaBody.plain_eq, htype.plain_eq]
      congr 1
      congr 1
      · exact htype.nullableMarker_eq
      · exact map_eq_map_of_keyed hproperties fun p hp _ h => agree h (.inl hp)
      · refine map_eq_map_of_rel hadditional fun a ha a' haa' => ?_
        cases haa' with
        | flag => rfl
        | schema h =>
          rw [Additional.map, Additional.map,
            agree h (.inr (.inl ⟨_, ha, List.mem_singleton.mpr rfl⟩))]
      · exact map_eq_map_of_rel hitems fun i hi _ h => agree h (.inr (.inr (.inl hi)))
      · exact map_eq_map_of_forall₂ hallOf fun b hb _ h => agree h (.inr (.inr (.inr (.inl hb))))
      · exact map_eq_map_of_forall₂ honeOf fun b hb _ h =>
          agree h (.inr (.inr (.inr (.inr (.inl hb)))))
      · exact map_eq_map_of_forall₂ hanyOf fun b hb _ h =>
          agree h (.inr (.inr (.inr (.inr (.inr hb)))))

end ApiModel
