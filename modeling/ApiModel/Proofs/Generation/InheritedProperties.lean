import ApiModel.Proofs.Generation.Inheritance
import ApiModel.Proofs.Generation.PromotedModels
import ApiModel.Proofs.Resolution.HeldProperties

/-!
# What becomes of inherited properties

A model with a parent leaves the properties of the parent to the model of the parent. Whether a
schema can be a parent is decided by its properties and branches alone, so the model of the parent
may be an enum or a union, which holds none of them. Where the parent is neither, and is an object
by its type or extends a parent itself, no property is lost, unless the link to the parent goes
astray because a promoted model goes by the name of the parent.

## Main definitions

* `Contract.MadeOf`: a model in an output is made of a schema.
* `TargetModel.Link`, `TargetModel.Carries`: the properties that are found by following links.

## Main results

* `madeOf_of_generate`: every model with a parent is made of some schema.
* `inheritedProperties_of_generate`: which properties of its parent a model carries.
-/

namespace ApiModel

/-! ### What a model is made of -/

/-- A model in an output is made of a schema: it is the model of the named schema, or is promoted
for it. -/
inductive Contract.MadeOf (c : Contract) (p : Profile) (flags : Flags) (s : Schema) (m : Model) :
    Prop
  | named {name : String} (hmem : (name, .inline s) ∈ c.components.schemas)
      (h : c.IsModelOf p flags (name, .inline s) m) : MadeOf c p flags s m
  | promoted (h : c.IsPromotedFor p flags s m) : MadeOf c p flags s m

namespace Contract.MadeOf

variable {c : Contract} {p : Profile} {flags : Flags} {s : Schema} {m : Model}

theorem stands (h : c.MadeOf p flags s m) : c.Stands (.inline s) := by
  cases h with
  | named hmem => exact c.closed_stands.named hmem
  | promoted h => exact h.stands

/-- A model that is made of a schema says what the form of the schema says. -/
theorem exists_form (h : c.MadeOf p flags s m) : ∃ origin location form,
    c.components.modelForm origin location s = .ok form ∧ form.Describes c.components m := by
  cases h with
  | named hmem h =>
    obtain ⟨form, hform, hdescribes⟩ := h.exists_form
    exact ⟨_, _, form, hform, hdescribes⟩
  | promoted h => exact h.exists_form

end Contract.MadeOf

section Output

variable {c : Contract} {p : Profile} {flags : Flags} {out : TargetModel}

/-- Every model with a parent is made of some schema. -/
theorem madeOf_of_generate (h : generate c p flags = .ok out) {m : Model} (hm : m ∈ out.models)
    {n : String} (hparent : m.parent = some n) : ∃ s, c.MadeOf p flags s m := by
  rw [← c.namedModels_append_promotedModels out] at hm
  rcases List.mem_append.mp hm with hm | hm
  · obtain ⟨node, hmem, hmodel, -⟩ := exists_entry_of_generate h hm
    cases node with
    | inline s => exact ⟨s, .named hmem hmodel⟩
    | ref pointer =>
      -- another name for what a pointer names has no parent
      obtain ⟨form, hform, hdescribes⟩ := hmodel.exists_form
      cases hform
      obtain ⟨_, hnone, -⟩ := hdescribes.parent n hparent
      cases hnone
  · obtain ⟨s, hs⟩ := isPromotedFor_of_generate h m hm
    exact ⟨s, .promoted hs⟩

end Output

/-! ### Following links -/

namespace TargetModel

/-- From a model in an output to one that it extends or for which it is another name. -/
def Link (out : TargetModel) (m m' : Model) : Prop :=
  m' ∈ out.models ∧
    (m.parent = some m'.name.pascalCase ∨ m.synonymOf? = some m'.name.pascalCase)

/-- A property is one of a model or of those to which its links lead. -/
def Carries (out : TargetModel) (m : Model) (q : String) : Prop :=
  ∃ m', Relation.ReflTransGen out.Link m m' ∧ q ∈ m'.fields.map Field.property

variable {out : TargetModel} {m m' : Model} {q : String}

theorem Carries.of_link (hlink : out.Link m m') (h : out.Carries m' q) : out.Carries m q := by
  obtain ⟨m'', hlinks, hq⟩ := h
  exact ⟨m'', .head hlink hlinks, hq⟩

/-- A property is one of the model itself or is carried by the next model. -/
theorem carries_iff : out.Carries m q ↔
    q ∈ m.fields.map Field.property ∨ ∃ m', out.Link m m' ∧ out.Carries m' q := by
  constructor
  · rintro ⟨m'', hlinks, hq⟩
    rcases Relation.ReflTransGen.cases_head hlinks with rfl | ⟨m', hlink, hrest⟩
    · exact .inl hq
    · exact .inr ⟨m', hlink, m'', hrest, hq⟩
  · rintro (hq | ⟨m', hlink, h⟩)
    · exact ⟨m, .refl, hq⟩
    · exact h.of_link hlink

end TargetModel

section Output

variable {c : Contract} {p : Profile} {flags : Flags} {out : TargetModel}

/-- A model with a parent is made of a schema that extends a named schema, and is no other name. Its
parent is the name of the model of that schema, or the name of no named schema. -/
theorem exists_extends_of_generate (h : generate c p flags = .ok out) {m : Model}
    (hm : m ∈ out.models) {n : String} (hparent : m.parent = some n) :
    ∃ s name parent, c.MadeOf p flags s m ∧ s.Extends name ∧
      c.components.schemas.lookup name = some (.inline parent) ∧
      (SchemaNode.inline parent).isParent = true ∧ m.synonymOf? = none ∧
      (n = (Name.ofText name).pascalCase ∨ n ∉ c.components.modelNames) := by
  obtain ⟨s, hmade⟩ := madeOf_of_generate h hm hparent
  obtain ⟨origin, location, form, hform, hdescribes⟩ := hmade.exists_form
  obtain ⟨n', hn', hlink⟩ := hdescribes.parent n hparent
  obtain ⟨hof, rfl⟩ := Components.parentOf_of_modelForm hform hn'
  obtain ⟨name, node, hextends, hfound, hnode, rfl, -⟩ := Components.exists_of_parentOf hof
  have hobject : m.synonymOf? = none := by
    rw [Option.eq_none_iff_forall_ne_some]
    intro target htarget
    obtain ⟨_, heq⟩ := hdescribes.synonym target htarget
    cases heq
  cases node with
  | ref pointer => cases hnode
  | inline parent => exact ⟨s, name, parent, hmade, hextends, hfound, hnode, hobject, hlink⟩

/-- Where a model extends one that has neither properties nor a parent, and no other model goes by
the same name, it carries what it has itself and what is carried by a model for which its parent is
another name. -/
theorem carries_iff_of_parent {m above : Model} {n q : String} (hparent : m.parent = some n)
    (hobject : m.synonymOf? = none) (habove : above ∈ out.models)
    (hname : above.name.pascalCase = n)
    (hone : (out.models.map fun m => m.name.pascalCase).count n = 1)
    (hproperties : above.fields.map Field.property = []) (hnoParent : above.parent = none) :
    out.Carries m q ↔ q ∈ m.fields.map Field.property ∨
      ∃ target, target ∈ out.models ∧ above.synonymOf? = some target.name.pascalCase ∧
        out.Carries target q := by
  have hlinks (m' : Model) : out.Link m m' ↔ m' = above := by
    constructor
    · rintro ⟨hm', hlink | hlink⟩
      · have hsame : m'.name.pascalCase = above.name.pascalCase := by
          rw [hname]
          exact Option.some.inj (hlink.symm.trans hparent)
        exact (eq_of_count_map_eq_one (f := fun m => m.name.pascalCase) habove hm' hsame
          (hname ▸ hone)).symm
      · rw [hobject] at hlink
        cases hlink
    · rintro rfl
      exact ⟨habove, .inl (by rw [hparent, hname])⟩
  have hcarried : out.Carries above q ↔ ∃ target, target ∈ out.models ∧
      above.synonymOf? = some target.name.pascalCase ∧ out.Carries target q := by
    rw [TargetModel.carries_iff, hproperties]
    simp only [List.not_mem_nil, false_or, TargetModel.Link, hnoParent, reduceCtorEq, and_assoc]
  rw [TargetModel.carries_iff]
  simp only [hlinks, exists_eq_left, hcarried]

/-- The model of a named schema goes by one of the names of the named schemas. -/
theorem pascalCase_mem_modelNames (h : generate c p flags = .ok out) {m : Model}
    (hm : m ∈ c.namedModels out) : m.name.pascalCase ∈ c.components.modelNames := by
  obtain ⟨node, hmem, -, hname⟩ := exists_entry_of_generate h hm
  rw [hname]
  exact List.mem_map_of_mem (List.mem_map_of_mem hmem)

/-- Where the parent of a model is no name of a named schema, the model carries what it has itself
and what the promoted models carry that go by this name. -/
theorem carries_iff_of_notMem (h : generate c p flags = .ok out) {m : Model} {n q : String}
    (hparent : m.parent = some n) (hobject : m.synonymOf? = none)
    (hother : n ∉ c.components.modelNames) :
    out.Carries m q ↔ q ∈ m.fields.map Field.property ∨
      ∃ above ∈ c.promotedModels out, above.name.pascalCase = n ∧ out.Carries above q := by
  have hlink (m' : Model) :
      out.Link m m' ↔ m' ∈ c.promotedModels out ∧ m'.name.pascalCase = n := by
    simp only [TargetModel.Link, hparent, hobject, Option.some.injEq, reduceCtorEq, or_false]
    rw [← c.namedModels_append_promotedModels out, List.mem_append]
    constructor
    · rintro ⟨hm' | hm', rfl⟩
      · exact absurd (pascalCase_mem_modelNames h hm') hother
      · exact ⟨hm', rfl⟩
    · rintro ⟨hm', rfl⟩
      exact ⟨.inr hm', rfl⟩
  rw [TargetModel.carries_iff]
  simp only [hlink, and_assoc]

/-- A model with a parent is made of a schema of the contract that extends a named schema. The link
to the parent leads to the model of this schema, or to the name of no named schema. Suppose that it
leads there. If the schema holds its properties, then the model carries all of them. If it does not,
and no other model goes by its name, then the model carries only what it has itself and what is
carried by a model for which its parent is another name. A link that leads to the name of no named
schema is followed to promoted models only: the model carries what it has itself and what they do. -/
theorem inheritedProperties_of_generate (h : generate c p flags = .ok out) {m : Model}
    (hm : m ∈ out.models) {n : String} (hparent : m.parent = some n) :
    ∃ s name parent, c.MadeOf p flags s m ∧ c.Stands (.inline s) ∧ s.Extends name ∧
      c.components.schemas.lookup name = some (.inline parent) ∧
      (n = (Name.ofText name).pascalCase ∨ n ∉ c.components.modelNames) ∧
      (n = (Name.ofText name).pascalCase → c.components.HoldsProperties parent →
        ∀ q ∈ parent.properties.map Prod.fst, out.Carries m q) ∧
      (n = (Name.ofText name).pascalCase → ¬c.components.HoldsProperties parent →
        (out.models.map fun m => m.name.pascalCase).count n = 1 →
        ∃ above ∈ out.models, above.name.pascalCase = n ∧
          ∀ q, out.Carries m q ↔ q ∈ m.fields.map Field.property ∨
            ∃ target, target ∈ out.models ∧ above.synonymOf? = some target.name.pascalCase ∧
              out.Carries target q) ∧
      (n ∉ c.components.modelNames →
        ∀ q, out.Carries m q ↔ q ∈ m.fields.map Field.property ∨
          ∃ above ∈ c.promotedModels out, above.name.pascalCase = n ∧ out.Carries above q) := by
  obtain ⟨s, name, parent, hmade, hextends, hfound, hnode, hobject, hlink⟩ :=
    exists_extends_of_generate h hm hparent
  obtain ⟨above, habove, hmodel⟩ := exists_namedModel_of_generate h hfound
  obtain ⟨form, hform, hdescribes⟩ := hmodel.exists_form
  have hname : above.name.pascalCase = (Name.ofText name).pascalCase := by rw [hmodel.name_eq]
  have hmem : above ∈ out.models := mem_models_of_mem_namedModels habove
  refine ⟨s, name, parent, hmade, hmade.stands, hextends, hfound, hlink, ?_, ?_, fun hother _ =>
    carries_iff_of_notMem h hparent hobject hother⟩
  · rintro rfl hholds q hq
    have hlink : out.Link m above := ⟨hmem, .inl (by rw [hname]; exact hparent)⟩
    refine TargetModel.Carries.of_link hlink ⟨above, .refl, ?_⟩
    rw [hdescribes.properties]
    exact Components.mem_properties_of_modelForm hform hholds hq
  · rintro rfl hlost hone
    obtain ⟨hnone, hnoParent⟩ := Components.properties_eq_nil_of_modelForm hform hnode hlost
    have hproperties : above.fields.map Field.property = [] := by
      rw [hdescribes.properties, hnone]
      rfl
    have habove : above.parent = none := by
      rw [Option.eq_none_iff_forall_ne_some]
      intro n hn
      obtain ⟨n', hn', -⟩ := hdescribes.parent n hn
      rw [hnoParent] at hn'
      cases hn'
    exact ⟨above, hmem, hname, fun q =>
      carries_iff_of_parent hparent hobject hmem hname hone hproperties habove⟩

end Output

/-- Where the names of the models are distinct, a link that leads to the name of a named schema
leads to that schema. -/
theorem Components.name_eq_of_link {c : Components} (hnames : c.modelNames.Nodup)
    {name above n : String} {node : SchemaNode} (hfound : c.schemas.lookup name = some node)
    (hlink : n = (Name.ofText name).pascalCase ∨ n ∉ c.modelNames) (habove : above ∈ c.schemaNames)
    (hcase : n = (Name.ofText above).pascalCase) : name = above := by
  have hname : name ∈ c.schemaNames := mem_keys_of_lookup_eq_some hfound
  have hmem : n ∈ c.modelNames := hcase ▸ List.mem_map_of_mem habove
  have hsame : n = (Name.ofText name).pascalCase := hlink.resolve_right (not_not.mpr hmem)
  exact name_eq_of_nodup hnames hname habove (hsame.symm.trans hcase)

/-- A dog carries the property of the animal that it extends. -/
theorem inheritedProperties_of_lineage : ∃ out m,
    generate (.ofSchemas lineage) .jaxrsSpec {} = .ok out ∧ m ∈ out.models ∧
    m.parent = some "Animal" ∧ m.fields.map Field.property = ["name"] ∧ out.Carries m "id" := by
  have hrun : ∃ out, generate (.ofSchemas lineage) .jaxrsSpec {} = .ok out ∧
      (out.models.map fun m => (m.parent, m.fields.map Field.property)) =
        [(some "Dog", ["coat"]), (some "Animal", ["name"]), (none, ["id"])] :=
    exists_of_generate (by decide +kernel)
  obtain ⟨out, h, hmodels⟩ := hrun
  have hmem : (some "Animal", ["name"]) ∈
      out.models.map fun m => (m.parent, m.fields.map Field.property) := by
    rw [hmodels]
    simp
  obtain ⟨m, hm, hdog⟩ := List.mem_map.mp hmem
  obtain ⟨hparent, hproperties⟩ := Prod.mk.inj hdog
  obtain ⟨s, name, parent, -, -, -, hfound, hlink, hcarried, -⟩ :=
    inheritedProperties_of_generate h hm hparent
  obtain rfl : name = "Animal" := Components.name_eq_of_link (by decide +kernel) hfound hlink
    (by decide +kernel) (by decide +kernel)
  cases hfound
  exact ⟨out, m, h, hm, hparent, hproperties, hcarried (by decide +kernel)
    ⟨rfl, rfl, .inr (.inr rfl)⟩ "id" (by simp)⟩

/-- A drawing extends a shape, which is a text or a number and has a property besides. -/
def drawing : List (String × SchemaNode) :=
  [("Drawing", .all [.ref "#/components/schemas/Shape", .objectWith "title" .text]),
   ("Shape", .inline { oneOf := [.text, .inline { type := some (.single .integer) }]
                       properties := [("area", .text)] })]

/-- The model of the shape is a union and has no field, so the drawing loses the property. -/
theorem lost_property : ∃ out m s parent,
    generate (.ofSchemas drawing) .jaxrsSpec {} = .ok out ∧ m ∈ out.models ∧
    m.parent = some "Shape" ∧ (Contract.ofSchemas drawing).MadeOf .jaxrsSpec {} s m ∧
    s.Extends "Shape" ∧
    (Contract.ofSchemas drawing).components.schemas.lookup "Shape" = some (.inline parent) ∧
    "area" ∈ parent.properties.map Prod.fst ∧ ¬out.Carries m "area" := by
  have hrun : ∃ out, generate (.ofSchemas drawing) .jaxrsSpec {} = .ok out ∧
      (out.models.map fun m =>
        (m.name.pascalCase, m.parent, m.synonymOf?, m.fields.map Field.property)) =
        [("Drawing", some "Shape", none, ["title"]), ("Shape", none, none, [])] :=
    exists_of_generate (by decide +kernel)
  obtain ⟨out, h, hmodels⟩ := hrun
  obtain ⟨m, rest, hout, hm, hrest⟩ := List.map_eq_cons_iff.mp hmodels
  obtain ⟨above, _, rfl, habove, hnone⟩ := List.map_eq_cons_iff.mp hrest
  obtain rfl := List.map_eq_nil_iff.mp hnone
  simp only [Prod.mk.injEq] at hm habove
  obtain ⟨hdrawing, hparent, hobject, hproperties⟩ := hm
  obtain ⟨hname, hnoParent, hnoSynonym, hnoProperties⟩ := habove
  have hmem : m ∈ out.models := by simp [hout]
  have hmem' : above ∈ out.models := by simp [hout]
  obtain ⟨s, name, parent, hmade, hextends, hfound, -, -, hlink⟩ :=
    exists_extends_of_generate h hmem hparent
  obtain rfl : name = "Shape" := Components.name_eq_of_link (by decide +kernel) hfound hlink
    (by decide +kernel) (by decide +kernel)
  cases hfound
  refine ⟨out, m, s, _, h, hmem, hparent, hmade, hextends, rfl, by simp, ?_⟩
  have hone : (out.models.map fun m => m.name.pascalCase).count "Shape" = 1 := by
    rw [hout, List.map_cons, List.map_cons, List.map_nil, hdrawing, hname]
    decide
  rw [carries_iff_of_parent hparent hobject hmem' hname hone hnoProperties hnoParent, hproperties,
    hnoSynonym]
  simp

end ApiModel
