import ApiModel.Proofs.Generation.Output
import ApiModel.Proofs.Resolution.ModelForm

/-!
# The models of the named schemas

The models of the named schemas come first in an output, in the order of the contract. Each of them
is what the resolver answers for its schema, under the new names of what the schema promotes. A new
name is never that of a named schema, so where a model refers to a named schema in the output, it
did so from the beginning.

## Main definitions

* `Contract.namedModels`: the models of the named schemas.
* `Model.synonymOf?`: the model for which a model is another name.
* `Renames.Spares`: new names that are not among some names.
* `ModelForm.Describes`: a model in the output says what a form says.
* `Contract.IsModelOf`: a model in the output is that of a named schema.

## Main results

* `Registry.Sound.spares_adopt`: the new names of promoted models are not those of named schemas.
* `isModelOf_of_generate`: the models of the named schemas.
* `Contract.IsModelOf.exists_form`: such a model says what the form of the schema says.
* `exists_entry_of_generate`: the named schema of such a model.
-/

namespace ApiModel

/-- The models of the named schemas, which come first in an output. -/
def Contract.namedModels (c : Contract) (out : TargetModel) : List Model :=
  out.models.take c.components.schemas.length

/-- The model for which a model is another name. -/
def Model.synonymOf? (m : Model) : Option String :=
  match m.shape with
  | .synonym t => t.kind.modelName.head?
  | .object | .enum _ | .union _ => none

theorem Model.synonymOf?_eq_some_iff {m : Model} {n : String} :
    m.synonymOf? = some n ↔ ∃ t, m.shape = .synonym t ∧ t.kind = .model n := by
  rw [synonymOf?]
  cases m.shape with
  | object | enum | union => simp
  | synonym t =>
    have hhead : t.kind.modelName.head? = some n ↔ t.kind = .model n := by
      cases t.kind <;> simp [TypeKind.modelName]
    simp only [hhead, ModelShape.synonym.injEq, exists_eq_left']

theorem Model.properties_named (m : Model) (name : String) :
    (m.named name).fields.map Field.property = m.fields.map Field.property := by
  rw [named, List.map_map]
  rfl

/-! ### New names -/

namespace Renames

/-- New names that are not among some names. -/
def Spares (ρ : Renames) (names : List String) : Prop := ∀ e ∈ ρ, e.2 ∉ names

variable {ρ : Renames} {names : List String}

/-- What has one of the names has it from the beginning. -/
theorem Spares.of_eq (h : ρ.Spares names) {n : String} (hn : ρ.of n ∈ names) : ρ.of n = n := by
  rw [of] at hn ⊢
  rcases hlookup : ρ.lookup n with _ | fresh
  · rfl
  · rw [hlookup] at hn
    exact absurd hn (h _ (mem_of_lookup_eq_some hlookup))

variable (ρ) (p : Profile) (m : Model)

theorem parent_model : (ρ.model p m).parent = m.parent.map ρ.of := by
  rcases eq_or_ne ρ [] with rfl | h
  · rw [model_nil, of_nil, Option.map_id_fun, id]
  · rw [model_of_ne_nil ρ p m h, rewritten]

theorem synonymOf?_model : (ρ.model p m).synonymOf? = m.synonymOf?.map ρ.of := by
  rcases eq_or_ne ρ [] with rfl | h
  · rw [model_nil, of_nil, Option.map_id_fun, id]
  · rw [model_of_ne_nil ρ p m h, rewritten, Model.synonymOf?, Model.synonymOf?]
    dsimp only
    cases m.shape with
    | synonym t => simp only [shape, kind_type, modelName_kind, List.head?_map]
    | object | enum | union => rfl

theorem properties_model :
    (ρ.model p m).fields.map Field.property = m.fields.map Field.property := by
  rcases eq_or_ne ρ [] with rfl | h
  · rw [model_nil]
  · rw [model_of_ne_nil ρ p m h, rewritten, List.map_map]
    rfl

end Renames

/-- While a list is taken, no new name is one of those that were taken before. -/
theorem Adoption.spares_foldl {reg : Registry} {p : Profile} {names : List String}
    {rest : List Model} {a : Adoption} (htaken : names ⊆ a.names.taken)
    (ha : a.renames.Spares names) :
    (rest.foldl (Registry.adoptOne p reg.entries) a).renames.Spares names := by
  induction rest generalizing a with
  | nil => exact ha
  | cons m rest ih =>
    rw [List.foldl_cons]
    rcases adoptOne_cases reg p a m with ⟨-, hstep⟩ | ⟨existing, -, -, hstep⟩ | ⟨-, hstep⟩ <;>
      rw [hstep]
    · exact ih htaken ha
    · exact ih htaken ha
    · refine ih (fun n hn => List.mem_cons_of_mem _ (htaken hn)) fun e he => ?_
      rcases List.mem_cons.mp he with rfl | he
      · exact fun hmem => a.names.grant_notMem m.name.pascalCase (htaken hmem)
      · exact ha e he

/-- The new names of promoted models are not those of named schemas. -/
theorem Registry.Sound.spares_adopt {reg : Registry} {schemaNames : List String}
    (h : reg.Sound schemaNames) (p : Profile) (promoted : List Model) :
    (reg.adopt p promoted).1.Spares (modelNames schemaNames) :=
  Adoption.spares_foldl (fun _ hn => List.mem_append_right _ (h.named_taken hn)) fun _ he =>
    nomatch he

/-! ### What a model in an output says -/

/-- A model says what its form says. Its parent is that of the form, unless it is no named schema in
the output. -/
structure ModelForm.Describes (c : Components) (form : ModelForm) (m : Model) : Prop where
  properties : m.fields.map Field.property = form.properties.map Property.name
  synonym : ∀ n, m.synonymOf? = some n → ∃ node, form = .synonym node
  parent : ∀ n, m.parent = some n → ∃ n', form.parent = some n' ∧ (n = n' ∨ n ∉ c.modelNames)

namespace ModelForm.Describes

variable {c : Components} {form : ModelForm} {m : Model}

/-- A model says what the form says of which it is. -/
theorem of_modelOf {r : Resolver} {shape : Shape} {name : Name} {description : Option String}
    {owner location : String} {st st' : Promotions}
    (h : (r.modelOf shape { name, description } owner location form).outcome st = (.ok m, st')) :
    form.Describes c m where
  properties := Resolver.properties_eq_of_modelOf rfl h
  synonym n hn := by
    obtain ⟨t, hshape, -⟩ := Model.synonymOf?_eq_some_iff.mp hn
    obtain ⟨node, hnode, -⟩ := Resolver.exists_synonym_of_modelOf rfl h hshape
    exact ⟨node, hnode⟩
  parent n hn := by
    rw [Resolver.parent_eq_of_modelOf rfl h] at hn
    exact ⟨n, hn, .inl rfl⟩

/-- It says the same under new names, if these are not those of named schemas. -/
theorem renamed (h : form.Describes c m) {ρ : Renames} (hρ : ρ.Spares c.modelNames) (p : Profile) :
    form.Describes c (ρ.model p m) where
  properties := (ρ.properties_model p m).trans h.properties
  synonym n hn := by
    rw [Renames.synonymOf?_model] at hn
    obtain ⟨n', hn', -⟩ := Option.map_eq_some_iff.mp hn
    exact h.synonym n' hn'
  parent n hn := by
    rw [Renames.parent_model] at hn
    obtain ⟨n', hn', rfl⟩ := Option.map_eq_some_iff.mp hn
    obtain ⟨n'', hn'', heq⟩ := h.parent n' hn'
    refine ⟨n'', hn'', or_iff_not_imp_right.mpr fun hmem => ?_⟩
    have hkept : ρ.of n' = n' := hρ.of_eq (not_not.mp hmem)
    rw [hkept] at hmem ⊢
    exact heq.resolve_right hmem

theorem named (h : form.Describes c m) (name : String) : form.Describes c (m.named name) where
  properties := (m.properties_named name).trans h.properties
  synonym := h.synonym
  parent := h.parent

theorem imported (h : form.Describes c m) (imports : List String) :
    form.Describes c { m with imports } where
  properties := h.properties
  synonym := h.synonym
  parent := h.parent

end ModelForm.Describes

/-! ### The models of the named schemas -/

/-- A model in the output is that of a named schema: it is what the resolver answers, under new
names if anything is promoted. -/
inductive Contract.IsModelOf (c : Contract) (p : Profile) (flags : Flags) :
    String × SchemaNode → Model → Prop
  | mk {e : String × SchemaNode} {m : Model} {promoted : List Model} {ρ : Renames}
      {imports : List String}
      (hrun : (c.resolver p flags).run ((c.resolver p flags).component e.1 e.2) =
        .ok (m, promoted))
      (hspares : ρ.Spares c.components.modelNames) (hnil : promoted = [] → ρ = []) :
      IsModelOf c p flags e { ρ.model p m with imports }

theorem isModelOf_of_takeModels {c : Contract} {p : Profile} {flags : Flags}
    {entries : List (String × SchemaNode)} {built : List (Model × List Model)}
    (h : List.Forall₂ (fun e b => (c.resolver p flags).run
      ((c.resolver p flags).component e.1 e.2) = .ok b) entries built)
    {reg : Registry} (hreg : reg.Sound c.components.schemaNames) :
    List.Forall₂ (c.IsModelOf p flags) entries
      ((takeModels p reg built).1.map fun m => { m with imports := p.modelImports m }) := by
  induction h generalizing reg with
  | nil => exact .nil
  | @cons e b _ _ hrun _ ih =>
    refine .cons (.mk hrun (hreg.spares_adopt p b.2) fun hnil => ?_) (ih (hreg.adopt p b.2))
    rw [hnil]
    rfl

/-- The models of the named schemas are those that the resolver answers for them. -/
theorem isModelOf_of_generate {c : Contract} {p : Profile} {flags : Flags} {out : TargetModel}
    (h : generate c p flags = .ok out) :
    List.Forall₂ (c.IsModelOf p flags) c.components.schemas (c.namedModels out) := by
  obtain ⟨built, ops, hbuilt, -, rfl⟩ := generate_eq_ok_iff.mp h
  have hmodels := isModelOf_of_takeModels (forall₂_of_mapM_ok hbuilt)
    (Registry.sound_initial c.components.schemaNames)
  have hlength : c.components.schemas.length = _ := hmodels.length_eq
  rw [Contract.namedModels, Contract.assemble]
  dsimp only
  rw [List.map_append, hlength, List.take_left]
  exact hmodels

namespace Contract.IsModelOf

variable {c : Contract} {p : Profile} {flags : Flags} {e : String × SchemaNode} {m : Model}

theorem name_eq (h : c.IsModelOf p flags e m) : m.name = Name.ofText e.1 := by
  obtain ⟨hrun, -, -⟩ := h
  dsimp only
  rw [Renames.name_model]
  exact (Resolver.Law.run_component (c.resolver p flags).referenceLaw hrun).1.name_eq

/-- The model of a named schema says what the form of the schema says. -/
theorem exists_form (h : c.IsModelOf p flags e m) : ∃ form,
    c.components.componentForm e.1 e.2 = .ok form ∧ form.Describes c.components m := by
  obtain ⟨hrun, hspares, -⟩ := h
  obtain ⟨st, hout, -⟩ := Resolver.exists_outcome_of_run hrun
  rw [Resolver.component_eq] at hout
  obtain ⟨form, hform, hout⟩ := Resolving.exists_of_outcome_lift_bind hout
  have hdescribes : form.Describes c.components _ := .of_modelOf hout
  exact ⟨form, hform, (hdescribes.renamed hspares p).imported _⟩

end Contract.IsModelOf

/-! ### Named schemas and their models -/

namespace Components

variable {c : Components} {name name' : String} {node : SchemaNode}

/-- Where the names of the models are distinct, a named schema is found under its name. -/
theorem lookup_of_nodup (hnames : c.modelNames.Nodup) (h : (name, node) ∈ c.schemas) :
    c.schemas.lookup name = some node :=
  lookup_eq_some_of_mem (List.Nodup.of_map _ hnames) h

/-- Where the names of the models are distinct, a named schema is known by the name of its model. -/
theorem name_eq_of_nodup (hnames : c.modelNames.Nodup) (h : name ∈ c.schemaNames)
    (h' : name' ∈ c.schemaNames)
    (hcase : (Name.ofText name).pascalCase = (Name.ofText name').pascalCase) : name = name' :=
  List.inj_on_of_nodup_map hnames h h' hcase

end Components

section Output

variable {c : Contract} {p : Profile} {flags : Flags} {out : TargetModel}

/-- The model of a named schema is known by the name of the schema. -/
theorem exists_entry_of_generate (h : generate c p flags = .ok out) {m : Model}
    (hm : m ∈ c.namedModels out) : ∃ node,
      (m.name.text, node) ∈ c.components.schemas ∧ c.IsModelOf p flags (m.name.text, node) m ∧
        m.name = Name.ofText m.name.text := by
  obtain ⟨⟨name, node⟩, hmem, hmodel⟩ := exists_of_forall₂ (isModelOf_of_generate h) hm
  have hname : m.name = Name.ofText name := hmodel.name_eq
  obtain rfl : m.name.text = name := by rw [hname, Name.text_ofText]
  exact ⟨node, hmem, hmodel, hname⟩

/-- Every named schema has a model, which is found by its name. -/
theorem exists_namedModel_of_generate (h : generate c p flags = .ok out) {name : String}
    {node : SchemaNode} (hfound : c.components.schemas.lookup name = some node) : ∃ m,
      m ∈ c.namedModels out ∧ c.IsModelOf p flags (name, node) m := by
  have hflip : List.Forall₂ (flip (c.IsModelOf p flags)) (c.namedModels out)
      c.components.schemas := (isModelOf_of_generate h).flip
  exact exists_of_forall₂ hflip (mem_of_lookup_eq_some hfound)

theorem mem_models_of_mem_namedModels {m : Model} (h : m ∈ c.namedModels out) : m ∈ out.models :=
  List.mem_of_mem_take h

end Output

end ApiModel
