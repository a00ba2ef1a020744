import ApiModel.Proofs.Resolution.Outcome
import ApiModel.Proofs.Resolution.Spelling
import ApiModel.Resolution.Shape

/-!
# Resolving ignores spellings

A resolver for the plain spelling of a contract answers for the plain spelling of a schema what the
resolver for the contract answers for the schema. What holds further schemas is resolved by a given
way, so each construction is compared under the assumption that the ways inside it agree; that the
ways agree follows by induction on how deep leaves are nested.

## Main definitions

* `Shape.OnPlain`: a way that answers for plain spellings what another one answers.
* `Resolver.plain`: a resolver for the plain spelling of the components.

## Main results

* `Resolver.buildModel_plain`: building a model.
* `Resolver.shape_plain`, `Resolver.resolve_plain`, `Resolver.component_plain`: resolving a schema.
-/

namespace ApiModel

/-! ### Where schemas are used -/

theorem Usage.nullability_plain (usage : Usage) (s : Schema) :
    usage.nullability s.plain = usage.nullability s := by
  rw [nullability, nullability, s.nullableMarker_plain]

namespace Profile

variable (p : Profile) (s : Schema)

theorem enumType_plain (flags : Flags) (location : String) :
    p.enumType flags s.plain location = p.enumType flags s location := by
  rw [enumType, enumType, memberTypeName, memberTypeName, s.primaryType_plain, s.format_plain,
    s.enumValues_plain]

theorem declaredDefault_plain (value : Json.Value) (type : ResolvedType) :
    p.declaredDefault value s.plain type = p.declaredDefault value s type := by
  rw [declaredDefault, declaredDefault, s.isEnum_plain, s.enumValues_plain]

theorem resolveDefault_plain (type : ResolvedType) (required : Bool) :
    p.resolveDefault s.plain type required = p.resolveDefault s type required := by
  simp only [resolveDefault, s.defaultValue_plain, declaredDefault_plain]

end Profile

/-- One way answers for plain spellings what another one answers. -/
def Shape.OnPlain (shape' shape : Shape) : Prop :=
  ∀ usage node, shape' usage node.plain = shape usage node

namespace Resolver

/-- A resolver for the plain spelling of the components. -/
def plain (r : Resolver) : Resolver := { r with components := r.components.plain }

variable (r : Resolver) {shape' shape : Shape}

@[simp] theorem components_plain : r.plain.components = r.components.plain := rfl

@[simp] theorem profile_plain : r.plain.profile = r.profile := rfl

@[simp] theorem flags_plain : r.plain.flags = r.flags := rfl

@[simp] theorem any_plain : r.plain.any = r.any := rfl

theorem finish_plain (usage : Usage) (s : Schema) (type : ResolvedType) :
    r.plain.finish usage s.plain type = r.finish usage s type := by
  simp only [finish, usage.nullability_plain, r.profile.resolveDefault_plain, profile_plain]

theorem resolveWith_plain (h : shape'.OnPlain shape) (usage : Usage) (node : SchemaNode) :
    r.plain.resolveWith shape' usage node.plain = r.resolveWith shape usage node := by
  simp only [resolveWith, h usage node, components_plain, r.components.target_plain,
    Resolving.lift_map_bind, finish_plain]

/-! ### Unions -/

theorem discriminator_plain (branches : List SchemaNode) (d : ContractDiscriminator) :
    discriminator (branches.map SchemaNode.plain) d = discriminator branches d := by
  rw [discriminator, discriminator, filterMap_pointer?_plain]

theorem unionBranches_plain (s : Schema) : unionBranches s.plain =
    (unionBranches s).map id (List.map SchemaNode.plain) := by
  rw [unionBranches, unionBranches, s.oneOf_plain, s.anyOf_plain, List.isEmpty_map]
  split <;> rfl

theorem unionType_plain (h : shape'.OnPlain shape) (usage : Usage) (s : Schema) :
    unionType shape' usage s.plain = unionType shape usage s := by
  simp only [unionType, unionBranches_plain, Prod.map, id, List.zipIdx_map, List.mapM_map,
    Function.comp_def, h _ _, s.discriminator_plain, discriminator_plain]

/-! ### Fields -/

theorem field_plain (h : shape'.OnPlain shape) (owner location : String) (p : Property) :
    r.plain.field shape' owner location p.plain = r.field shape owner location p := by
  have hdescription (node : SchemaNode) : node.plain.schema?.bind SchemaBody.description =
      node.schema?.bind SchemaBody.description := by
    cases node with
    | ref => rfl
    | inline s => exact s.description_plain
  simp only [field, Property.plain, r.resolveWith_plain h, components_plain, profile_plain,
    r.components.target_plain, Resolving.lift_map_bind, SchemaBody.nullableMarker_plain,
    SchemaBody.readOnly_plain, SchemaBody.writeOnly_plain, SchemaBody.constraints_plain,
    hdescription]

theorem fields_plain (h : shape'.OnPlain shape) (owner location : String)
    (properties : List Property) :
    r.plain.fields shape' owner location (properties.map Property.plain) =
      r.fields shape owner location properties := by
  simp only [fields, List.mapM_map, Function.comp_def, r.field_plain h]

/-! ### Models -/

theorem synonym_plain (h : shape'.OnPlain shape) (base : Model) (owner location : String)
    (node : SchemaNode) : r.plain.synonym shape' base owner location node.plain =
      r.synonym shape base owner location node := by
  rw [synonym, synonym, r.resolveWith_plain h]

theorem object_plain (h : shape'.OnPlain shape) (base : Model) (owner location : String)
    (properties : List Property) (d : Option ContractDiscriminator) :
    r.plain.object shape' base owner location (properties.map Property.plain) d =
      r.object shape base owner location properties d := by
  rw [object, object, r.fields_plain h]

theorem compose_plain (h : shape'.OnPlain shape) (base : Model) (owner location : String)
    (s : Schema) : r.plain.compose shape' base owner location s.plain =
      r.compose shape base owner location s := by
  rw [compose, compose, s.allOf_plain, s.properties_plain, components_plain,
    r.components.parentOf_plain, inheritedProperties_plain, s.discriminator_plain,
    r.components.merge_plain]
  -- A lone branch with no properties beside it is a synonym and is not merged.
  rcases s.allOf with _ | ⟨b, _ | ⟨b', rest⟩⟩ <;> rcases s.properties with _ | ⟨e, properties⟩
  case cons.nil.nil => exact r.synonym_plain h base owner location b
  all_goals
    refine bind_congr fun parent => ?_
    rcases parent with _ | parent
    · rw [Resolving.lift_map_bind]
      refine bind_congr fun merged => ?_
      rw [merged.toProperties_plain]
      have hobject := r.object_plain h base owner location merged.toProperties merged.discriminator
      obtain ⟨kind, _, _, value, _⟩ := merged
      rcases kind with _ | _ | t
      · exact hobject
      · exact hobject
      · rcases value with _ | value
        · rfl
        · exact r.synonym_plain h base owner location (.inline value)
    · exact r.object_plain h _ owner location _ _

theorem buildModel_plain (h : shape'.OnPlain shape) (name : Name) (s : Schema)
    (location : String) :
    r.plain.buildModel shape' name s.plain location = r.buildModel shape name s location := by
  simp only [buildModel, s.description_plain, s.isEnum_plain, s.isUnion_plain, s.allOf_plain,
    List.isEmpty_map, s.hasProperties_plain, profile_plain, flags_plain,
    r.profile.enumType_plain, unionType_plain h, r.compose_plain h, s.ownProperties_plain,
    r.object_plain h, s.discriminator_plain, ← SchemaNode.plain_inline, r.synonym_plain h]

theorem promote_plain (h : shape'.OnPlain shape) (usage : Usage) (s : Schema) :
    r.plain.promote shape' usage s.plain = r.promote shape usage s := by
  simp only [promote, r.buildModel_plain h]

/-! ### Shapes -/

theorem leafType_plain (h : shape'.OnPlain shape) (usage : Usage) (leaf : Leaf) :
    r.plain.leafType shape' usage leaf.plain = r.leafType shape usage leaf := by
  cases leaf with
  | model | any => rfl
  | schema s =>
    simp only [Leaf.plain, leafType, s.form_plain, r.promote_plain h, profile_plain, flags_plain,
      r.profile.enumType_plain, unionType_plain h, s.format_plain, any_plain]
    rcases s.form with _ | _ | _ | _ | _ | _ | _ | _ | _ | _ | _ <;> rfl

theorem shapeByWalk_plain {inner' inner : Leaf → Shape}
    (h : ∀ leaf, (inner' leaf.plain).OnPlain (inner leaf)) :
    (r.plain.shapeByWalk inner').OnPlain (r.shapeByWalk inner) := by
  intro usage node
  simp only [shapeByWalk, components_plain, r.components.walk_plain, Resolving.lift_map_bind]
  simp only [Walk.plain, r.leafType_plain (h _)]
  rfl

theorem shapeWithin_plain (n : Nat) : (r.plain.shapeWithin n).OnPlain (r.shapeWithin n) := by
  induction n with
  | zero => exact fun _ _ => rfl
  | succ n ih => exact r.shapeByWalk_plain fun _ => ih

theorem shape_plain : r.plain.shape.OnPlain r.shape := by
  refine r.shapeByWalk_plain fun leaf => ?_
  rw [components_plain, Components.size_plain, Leaf.size_plain]
  exact r.shapeWithin_plain _

theorem resolve_plain (usage : Usage) (node : SchemaNode) :
    r.plain.resolve usage node.plain = r.resolve usage node :=
  r.resolveWith_plain r.shape_plain usage node

theorem component_plain (name : String) (node : SchemaNode) :
    r.plain.component name node.plain = r.component name node := by
  cases node with
  | ref pointer => exact r.synonym_plain r.shape_plain _ _ _ _
  | inline s => exact r.buildModel_plain r.shape_plain _ _ _

theorem run_plain {α : Type} (answer : Resolving α) : r.plain.run answer = r.run answer := by
  rw [run, run, Promotions.initial, Promotions.initial, components_plain,
    Components.schemaNames_plain]

end Resolver

end ApiModel
