import ApiModel.Proofs.Generation.NamedModels
import ApiModel.Proofs.Resolution.Ancestors

/-!
# Inheritance has no cycle

A model in an output may have a parent, whose model may have one in turn. Each named schema is
checked on its own, by going through the schemas that it extends, whether these are parents or not.
Where no two named schemas share a model name, a step from a model to its parent is one from a
schema to the schema that it extends. So a model that led back to itself would have been found by
its own check.

## Main definitions

* `Contract.ParentStep`: from a model to the model of a named schema that is its parent.

## Main results

* `above_of_parentStep`: the parent of the model of a named schema is above it, and not below.
* `inheritance_of_generate`: on the way from a model through its parents no model comes twice.
-/

namespace ApiModel

/-- From a model in an output to the model of a named schema that is its parent. -/
def Contract.ParentStep (c : Contract) (out : TargetModel) (m m' : Model) : Prop :=
  m ∈ out.models ∧ m' ∈ c.namedModels out ∧ m.parent = some m'.name.pascalCase

section Output

variable {c : Contract} {p : Profile} {flags : Flags} {out : TargetModel}

/-- The parent of the model of a named schema is above it, and is not below it. -/
theorem above_of_parentStep (h : generate c p flags = .ok out)
    (hnames : c.components.modelNames.Nodup) {m m' : Model} (hm : m ∈ c.namedModels out)
    (hstep : c.ParentStep out m m') :
    c.components.Above m.name.text m'.name.text ∧
      ¬Relation.ReflTransGen c.components.Above m'.name.text m.name.text := by
  obtain ⟨-, hm', hparent⟩ := hstep
  obtain ⟨node, hmem, hmodel, -⟩ := exists_entry_of_generate h hm
  obtain ⟨node', hmem', -, hname'⟩ := exists_entry_of_generate h hm'
  have hkey' : m'.name.text ∈ c.components.schemaNames := List.mem_map_of_mem hmem'
  have hmodelName : m'.name.pascalCase ∈ c.components.modelNames := by
    rw [hname']
    exact List.mem_map_of_mem hkey'
  obtain ⟨form, hform, hdescribes⟩ := hmodel.exists_form
  obtain ⟨parent, hparent', rfl | hother⟩ := hdescribes.parent _ hparent
  · cases node with
    | ref pointer =>
      cases hform
      cases hparent'
    | inline s =>
      obtain ⟨hof, -⟩ := Components.parentOf_of_modelForm hform hparent'
      obtain ⟨name, node, hextends, hfound, -, hcase, hbelow⟩ := Components.exists_of_parentOf hof
      have hkey : name ∈ c.components.schemaNames := mem_keys_of_lookup_eq_some hfound
      rw [hname'] at hcase
      obtain rfl := Components.name_eq_of_nodup hnames hkey' hkey hcase
      exact ⟨⟨s, Components.lookup_of_nodup hnames hmem, hextends⟩, hbelow⟩
  · exact absurd hmodelName hother

/-- Whatever leads from the model of a named schema to its parents leads from the schema to those
above. -/
theorem above_of_parentSteps (h : generate c p flags = .ok out)
    (hnames : c.components.modelNames.Nodup) {m m' : Model} (hm : m ∈ c.namedModels out)
    (hsteps : Relation.ReflTransGen (c.ParentStep out) m m') :
    Relation.ReflTransGen c.components.Above m.name.text m'.name.text := by
  induction hsteps using Relation.ReflTransGen.head_induction_on with
  | refl => exact .refl
  | head hstep _ ih =>
    have habove := (above_of_parentStep h hnames hm hstep).1
    exact .head habove (ih hstep.2.1)

/-- Where no two named schemas share a model name, no model in an output is its own ancestor, and
on the way from a model through its parents none comes twice. -/
theorem inheritance_of_generate (h : generate c p flags = .ok out)
    (hnames : c.components.modelNames.Nodup) :
    (∀ m, ¬Relation.TransGen (c.ParentStep out) m m) ∧
      ∀ way : List Model, way.IsChain (c.ParentStep out) → way.Nodup := by
  have hself (m : Model) : ¬Relation.TransGen (c.ParentStep out) m m := by
    intro hcycle
    -- the last step of the cycle leads to the model of a named schema
    obtain ⟨_, -, hlast⟩ := Relation.TransGen.tail'_iff.mp hcycle
    obtain ⟨parent, hfirst, hback⟩ := Relation.TransGen.head'_iff.mp hcycle
    have hm : m ∈ c.namedModels out := hlast.2.1
    have hbelow := (above_of_parentStep h hnames hm hfirst).2
    exact hbelow (above_of_parentSteps h hnames hfirst.2.1 hback)
  refine ⟨hself, fun way hway => ?_⟩
  have hlater : way.Pairwise (Relation.TransGen (c.ParentStep out)) :=
    List.isChain_iff_pairwise.mp (hway.imp fun _ _ => .single)
  refine hlater.imp fun hsteps => ?_
  rintro rfl
  exact hself _ hsteps

end Output

/-- A poodle is a dog, and a dog is an animal. -/
def lineage : List (String × SchemaNode) :=
  [("Poodle", .all [.ref "#/components/schemas/Dog", .objectWith "coat" .text]),
   ("Dog", .all [.ref "#/components/schemas/Animal", .objectWith "name" .text]),
   ("Animal", .objectWith "id" .text)]

/-- The way from a poodle leads through the dog to the animal, and ends there. -/
theorem inheritance_of_lineage : ∃ out, generate (.ofSchemas lineage) .jaxrsSpec {} = .ok out ∧
    (out.models.map fun m => (m.name.pascalCase, m.parent)) =
      [("Poodle", some "Dog"), ("Dog", some "Animal"), ("Animal", none)] ∧
    (∀ m, ¬Relation.TransGen ((Contract.ofSchemas lineage).ParentStep out) m m) ∧
    ∀ way : List Model, way.IsChain ((Contract.ofSchemas lineage).ParentStep out) →
      way.Nodup := by
  have hrun : ∃ out, generate (.ofSchemas lineage) .jaxrsSpec {} = .ok out ∧
      (out.models.map fun m => (m.name.pascalCase, m.parent)) =
        [("Poodle", some "Dog"), ("Dog", some "Animal"), ("Animal", none)] :=
    exists_of_generate (by decide +kernel)
  obtain ⟨out, h, hparents⟩ := hrun
  have hnames : (Contract.ofSchemas lineage).components.modelNames.Nodup := by decide +kernel
  obtain ⟨hself, hway⟩ := inheritance_of_generate h hnames
  exact ⟨out, h, hparents, hself, hway⟩

end ApiModel
