import ApiModel.Proofs.Resolution.Law

/-!
# What a model will be

What the model of a schema will be is decided before anything in it is resolved: an enum, a union,
another name for what some schema resolves to, or an object with some properties, which may extend a
parent. The decision takes look-ups among the components only, and promotes nothing. What a model
says of its parent and of its properties is read off it.

## Main definitions

* `ModelForm`: what a model will be.
* `Components.modelForm`, `Components.componentForm`: the decision for a schema and for a named
  schema.
* `Resolver.modelOf`: the model of a form.

## Main results

* `Resolver.buildModel_eq`, `Resolver.component_eq`: a model is built by its form.
* `Resolver.outcome_synonym_iff`, `Resolver.outcome_object_iff`: when a model is answered.
* `Resolver.parent_eq_of_modelOf`, `Resolver.properties_eq_of_modelOf`,
  `Resolver.exists_synonym_of_modelOf`: what a model says that is of some form.
* `Components.parentOf_of_modelForm`: when a form has a parent.
-/

namespace ApiModel

/-! ### The decision -/

/-- What a model will be, with what it is made of. -/
inductive ModelForm where
  | enum (s : Schema)
  | union (s : Schema)
  | synonym (node : SchemaNode)
  | object (parent : Option String) (properties : List Property)
      (discriminator : Option ContractDiscriminator)

/-- The parent of an object, if it has one. -/
def ModelForm.parent : ModelForm → Option String
  | object parent _ _ => parent
  | enum _ | union _ | synonym _ => none

/-- The properties of an object. -/
def ModelForm.properties : ModelForm → List Property
  | object _ properties _ => properties
  | enum _ | union _ | synonym _ => []

/-- What becomes of merged schemas: another name for the value for which they stand, or an
object. -/
def Merged.form (m : Merged) : ModelForm :=
  match m.kind, m.value with
  | some (.value _), some value => .synonym (.inline value)
  | some (.value _), none => .object none [] none
  | _, _ => .object none m.toProperties m.discriminator

theorem Merged.parent_form (m : Merged) : m.form.parent = none := by
  rw [Merged.form]
  rcases m.kind with _ | _ | type <;> rcases m.value with _ | value <;> rfl

namespace Components

variable (c : Components)

/-- What becomes of an all-of. -/
def composedForm (origin location : String) (s : Schema) : Except ResolveError ModelForm :=
  match s.allOf, s.properties with
  | [branch], [] => .ok (.synonym branch)
  | _, _ => do
    match ← c.parentOf origin s location with
    | some parent => return .object (some parent) (inheritedProperties s) s.discriminator
    | none => return (← c.merge location s).form

/-- What becomes of a schema that gets a model of a name. -/
def modelForm (origin location : String) (s : Schema) : Except ResolveError ModelForm :=
  if s.isEnum then .ok (.enum s)
  else if s.isUnion then .ok (.union s)
  else if !s.allOf.isEmpty then c.composedForm origin location s
  else if s.hasProperties then .ok (.object none s.ownProperties s.discriminator)
  else .ok (.synonym (.inline s))

/-- What becomes of a named schema. -/
def componentForm (name : String) : SchemaNode → Except ResolveError ModelForm
  | .inline s => c.modelForm name (pointerTo "schemas" name) s
  | .ref pointer => .ok (.synonym (.ref pointer))

variable {c}

theorem parentOf_of_composedForm {origin location name : String} {s : Schema} {form : ModelForm}
    (h : c.composedForm origin location s = .ok form) (hparent : form.parent = some name) :
    c.parentOf origin s location = .ok (some name) ∧
      form = .object (some name) (inheritedProperties s) s.discriminator := by
  rw [composedForm] at h
  split at h
  · cases h
    cases hparent
  rcases hof : c.parentOf origin s location with e | _ | parent <;> rw [hof] at h
  · cases h
  · rcases hmerge : c.merge location s with e | merged <;> rw [hmerge] at h <;> cases h
    rw [merged.parent_form] at hparent
    cases hparent
  · cases h
    obtain rfl := Option.some.inj hparent
    exact ⟨rfl, rfl⟩

/-- A form with a parent is that of a schema that extends it. -/
theorem parentOf_of_modelForm {origin location name : String} {s : Schema} {form : ModelForm}
    (h : c.modelForm origin location s = .ok form) (hparent : form.parent = some name) :
    c.parentOf origin s location = .ok (some name) ∧
      form = .object (some name) (inheritedProperties s) s.discriminator := by
  rw [modelForm] at h
  split at h
  · cases h
    cases hparent
  split at h
  · cases h
    cases hparent
  split at h
  · exact parentOf_of_composedForm h hparent
  split at h <;> cases h <;> cases hparent
end Components

namespace Resolver

variable (r : Resolver)

/-- The model of a form. -/
def modelOf (shape : Shape) (base : Model) (owner location : String) :
    ModelForm → Resolving Model
  | .enum s => do
    let e ← r.profile.enumType r.flags s location
    return { base with shape := .enum e }
  | .union s => do
    let u ← unionType shape (.standalone location owner) s
    return { base with shape := .union u, discriminator := u.discriminator }
  | .synonym node => r.synonym shape base owner location node
  | .object parent properties d =>
    r.object shape { base with parent } owner location properties d

theorem compose_eq (shape : Shape) (name : Name) (description : Option String)
    (owner location : String) (s : Schema) :
    r.compose shape { name, description } owner location s = (do
      let form ← r.components.composedForm name.text location s
      r.modelOf shape { name, description } owner location form) := by
  rw [compose, Components.composedForm]
  rcases s.allOf with _ | ⟨branch, _ | ⟨second, rest⟩⟩ <;>
    rcases s.properties with _ | ⟨property, properties⟩
  case cons.nil.nil => rfl
  -- in all other cases the branches are not left to themselves
  all_goals
    dsimp only
    rw [Resolving.lift_bind_bind]
    congr 1
    funext parent
    cases parent with
    | some parent => rfl
    | none =>
      dsimp only
      rw [Resolving.lift_bind_bind]
      congr 1
      funext merged
      change _ = r.modelOf shape { name, description } owner location merged.form
      rw [Merged.form]
      rcases merged.kind with _ | _ | type <;> rcases merged.value with _ | value <;> rfl

/-- A model is built by its form. -/
theorem buildModel_eq (shape : Shape) (name : Name) (s : Schema) (location : String) :
    r.buildModel shape name s location = (do
      let form ← r.components.modelForm name.text location s
      r.modelOf shape { name, description := s.description } name.pascalCase location form) := by
  rw [buildModel, Components.modelForm]
  dsimp only
  split
  · rfl
  split
  · rfl
  split
  · exact r.compose_eq shape name s.description name.pascalCase location s
  split
  · rfl
  · rfl

/-- The model of a named schema is built by its form. -/
theorem component_eq (name : String) (node : SchemaNode) :
    r.component name node = (do
      let form ← r.components.componentForm name node
      r.modelOf r.shape
        { name := Name.ofText name, description := node.schema?.bind SchemaBody.description }
        (Name.ofText name).pascalCase (pointerTo "schemas" name) form) := by
  cases node with
  | inline s => exact r.buildModel_eq r.shape (Name.ofText name) s (pointerTo "schemas" name)
  | ref pointer => rfl

/-! ### What a model says that is of some form -/

/-- What is resolved in order is related to what it is resolved from. -/
theorem forall₂_of_outcome_mapM {α β : Type} {f : α → Resolving β} {R : α → β → Prop}
    (hf : ∀ a st b st', (f a).outcome st = (.ok b, st') → R a b) {l : List α} {bs : List β}
    {st st' : Promotions} (h : (l.mapM f).outcome st = (.ok bs, st')) : List.Forall₂ R l bs := by
  have hyields : Resolving.Yields (fun _ => True) (l.mapM f) (List.Forall₂ R l) :=
    .mapM fun a _ st st' b hout _ => ⟨fun _ _ => trivial, hf a st b st' hout⟩
  exact (hyields h fun _ _ => trivial).2

theorem map_eq_map_of_outcome_mapM {α β γ : Type} {f : α → Resolving β} {g : β → γ} {k : α → γ}
    (hf : ∀ a st b st', (f a).outcome st = (.ok b, st') → g b = k a) {l : List α} {bs : List β}
    {st st' : Promotions} (h : (l.mapM f).outcome st = (.ok bs, st')) : bs.map g = l.map k :=
  (map_eq_map_of_forall₂ (forall₂_of_outcome_mapM hf h) fun _ _ _ hb => hb.symm).symm

variable {r} {shape : Shape} {base m : Model} {owner location : String} {form : ModelForm}
  {st st' : Promotions}

theorem property_eq_of_field {p : Property} {f : Field}
    (h : (r.field shape owner location p).outcome st = (.ok f, st')) : f.property = p.name := by
  obtain ⟨type, st₁, -, h⟩ := Resolving.exists_of_outcome_bind h
  obtain ⟨target, st₂, -, h⟩ := Resolving.exists_of_outcome_bind h
  cases h
  rfl

/-- Another name answers when what it stands for does. -/
theorem outcome_synonym_iff {node : SchemaNode} :
    (r.synonym shape base owner location node).outcome st = (.ok m, st') ↔ ∃ type,
      (r.resolveWith shape (.standalone location owner) node).outcome st = (.ok type, st') ∧
        m = { base with shape := .synonym type } := by
  rw [synonym, Resolving.outcome_bind]
  rcases (r.resolveWith shape (.standalone location owner) node).outcome st with ⟨e | type, st₁⟩
  · simp
  · simp [eq_comm, and_comm]

/-- An object answers when its fields and its discriminator do. -/
theorem outcome_object_iff {properties : List Property} {d : Option ContractDiscriminator} :
    (r.object shape base owner location properties d).outcome st = (.ok m, st') ↔
      ∃ fields discriminator,
        (r.fields shape owner location properties).outcome st = (.ok fields, st') ∧
        d.mapM (Resolver.discriminator []) = .ok discriminator ∧
        m = { base with fields, discriminator } := by
  rw [object, Resolving.outcome_bind]
  rcases (r.fields shape owner location properties).outcome st with ⟨e | fields, st₁⟩
  · simp
  dsimp only
  rw [Resolving.outcome_bind, Resolving.outcome_mapM_lift]
  rcases d.mapM (Resolver.discriminator []) with e | discriminator
  · simp
  · simp [eq_comm, and_comm]

/-- An object keeps what is known of the model, and has a field for each property. -/
theorem eq_of_object {properties : List Property} {d : Option ContractDiscriminator}
    (h : (r.object shape base owner location properties d).outcome st = (.ok m, st')) :
    m.parent = base.parent ∧ m.shape = base.shape ∧
      m.fields.map Field.property = properties.map Property.name := by
  obtain ⟨fields, discriminator, hfields, -, rfl⟩ := outcome_object_iff.mp h
  refine ⟨rfl, rfl, ?_⟩
  obtain ⟨asked, st₃, hasked, h⟩ := Resolving.exists_of_outcome_bind hfields
  cases h
  rw [← map_eq_map_of_outcome_mapM (fun p _ f _ => property_eq_of_field) hasked]
  exact map_property_numberFields asked

/-- A model has the name that it is to have. -/
theorem name_eq_of_modelOf
    (h : (r.modelOf shape base owner location form).outcome st = (.ok m, st')) :
    m.name = base.name := by
  cases form with
  | enum | union | synonym =>
    obtain ⟨_, st₁, -, h⟩ := Resolving.exists_of_outcome_bind h
    cases h
    rfl
  | object =>
    obtain ⟨fields, discriminator, -, -, rfl⟩ := outcome_object_iff.mp h
    rfl

theorem name_eq_of_buildModel {name : Name} {s : Schema}
    (h : (r.buildModel shape name s location).outcome st = (.ok m, st')) : m.name = name := by
  rw [r.buildModel_eq] at h
  obtain ⟨form, -, h⟩ := Resolving.exists_of_outcome_lift_bind h
  exact name_eq_of_modelOf h

/-- A model has the parent of its form. -/
theorem parent_eq_of_modelOf (hbase : base.parent = none)
    (h : (r.modelOf shape base owner location form).outcome st = (.ok m, st')) :
    m.parent = form.parent := by
  cases form with
  | enum | union | synonym =>
    obtain ⟨_, st₁, -, h⟩ := Resolving.exists_of_outcome_bind h
    cases h
    exact hbase
  | object => exact (eq_of_object h).1

/-- A model has a field for each property of its form. -/
theorem properties_eq_of_modelOf (hbase : base.fields = [])
    (h : (r.modelOf shape base owner location form).outcome st = (.ok m, st')) :
    m.fields.map Field.property = form.properties.map Property.name := by
  cases form with
  | enum | union | synonym =>
    obtain ⟨_, st₁, -, h⟩ := Resolving.exists_of_outcome_bind h
    cases h
    rw [hbase]
    rfl
  | object => exact (eq_of_object h).2.2

/-- A model that is another name is of such a form, and is another name for what the schema of the
form resolves to. -/
theorem exists_synonym_of_modelOf (hbase : base.shape = .object) {t : ResolvedType}
    (h : (r.modelOf shape base owner location form).outcome st = (.ok m, st'))
    (hm : m.shape = .synonym t) : ∃ node, form = .synonym node ∧
      (r.resolveWith shape (.standalone location owner) node).outcome st = (.ok t, st') := by
  cases form with
  | enum | union =>
    obtain ⟨_, st₁, -, h⟩ := Resolving.exists_of_outcome_bind h
    cases h
    cases hm
  | synonym node =>
    obtain ⟨target, st₁, htarget, h⟩ := Resolving.exists_of_outcome_bind h
    cases h
    cases hm
    exact ⟨node, rfl, htarget⟩
  | object =>
    rw [(eq_of_object h).2.1, hbase] at hm
    cases hm

end Resolver

end ApiModel
