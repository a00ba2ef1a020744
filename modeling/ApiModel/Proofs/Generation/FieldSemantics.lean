import ApiModel.Profile.Builtin
import ApiModel.Proofs.Generation.PromotedModels

/-!
# What a field says

Whether a field may be null, and what it is by default, is decided when its property is resolved:
the one by the marker of the schema to which the property leads and by whether the property must be
present, the other by this schema and by the type that the property has become. The type comes of
another walk through the contract than that schema, and the field keeps marks of its own beside
those of its type. They agree, and no later step takes them apart: neither numbering identifiers nor
new names of models change them.

## Main definitions

* `Field.Follows`: a field says what the schema says to which its property leads.
* `Field.IsOf`: a field is that of a property.

## Main results

* `Profile.origin_declaredDefault`: a declared default is never taken for an empty container.
* `Field.follows_of_finish`: what a field says when it is made.
* `Contract.IsModelOf.exists_isOf`, `Contract.IsPromotedFor.exists_isOf`: the fields of a model are
  those of the properties of its schema.
* `fields_of_generate`: what the fields of an output say.
-/

namespace ApiModel

/-! ### What is said of a field -/

/-- A field says what the schema says to which its property leads: it may be null if the schema is
marked so or the property need not be present. Without a declared default it is empty if it is an
array that must be there; with one it has that default, or none. -/
structure Field.Follows (p : Profile) (target : Schema) (f : Field) : Prop where
  nullable : f.nullable = (target.nullableMarker == some true)
  nullability :
    f.type.nullability = if f.nullable ∨ ¬f.required then .nullable else .nonNull
  undeclared : target.defaultValue = none → f.type.defaultValue =
    if f.type.container = .array ∧ f.required ∧ ¬f.nullable then
      p.array.emptyLiteral.map fun literal =>
        { literal, origin := .emptyContainer, imports := p.array.emptyImports }
    else none
  declared : target.defaultValue ≠ none → ∀ d ∈ f.type.defaultValue, d.origin = .declared

/-- A field is that of a property, and says what the schema says to which the property leads. -/
structure Field.IsOf (c : Components) (p : Profile) (q : Property) (f : Field) : Prop where
  property : f.property = q.name
  required : f.required = q.required
  follows : ∃ target, c.target q.node = .ok target ∧ f.Follows p target

namespace Field

variable {c : Components} {p : Profile} {q : Property} {target : Schema} {f f' : Field}

/-- What is said of a field is said of its marks only, and of those of its type. -/
theorem Follows.congr (h : f.Follows p target) (hrequired : f'.required = f.required)
    (hnullable : f'.nullable = f.nullable)
    (hnullability : f'.type.nullability = f.type.nullability)
    (hdefault : f'.type.defaultValue = f.type.defaultValue)
    (hcontainer : f'.type.container = f.type.container) : f'.Follows p target where
  nullable := hnullable.trans h.nullable
  nullability := by
    rw [hnullability, hnullable, hrequired]
    exact h.nullability
  undeclared hnone := by
    rw [hdefault, hcontainer, hnullable, hrequired]
    exact h.undeclared hnone
  declared hsome := by
    rw [hdefault]
    exact h.declared hsome

theorem IsOf.congr (h : f.IsOf c p q) (hproperty : f'.property = f.property)
    (hrequired : f'.required = f.required) (hfollows : ∀ target, f.Follows p target →
      f'.Follows p target) : f'.IsOf c p q where
  property := hproperty.trans h.property
  required := hrequired.trans h.required
  follows := h.follows.imp fun target htarget => ⟨htarget.1, hfollows target htarget.2⟩

end Field

/-! ### When a property is resolved -/

namespace Profile

variable {p : Profile} {d : DefaultValue}

theorem origin_of_map_declare {α : Type} {o : Option α} {literal : α → String}
    {imports : List String} (h : o.map (fun a => declare (literal a) imports) = some d) :
    d.origin = .declared := by
  obtain ⟨a, -, rfl⟩ := Option.map_eq_some_iff.mp h
  rfl

theorem origin_declaredArray {element : ResolvedType} {value : Json.Value}
    (h : p.declaredArray element value = some d) : d.origin = .declared := by
  unfold declaredArray at h
  split at h
  · exact origin_of_map_declare h
  · obtain ⟨template, -, h⟩ := Option.bind_eq_some_iff.mp h
    obtain ⟨elements, -, h⟩ := Option.bind_eq_some_iff.mp h
    cases h
    rfl
  · cases h

theorem origin_declaredMap {value : Json.Value} (h : p.declaredMap value = some d) :
    d.origin = .declared := by
  unfold declaredMap at h
  split at h
  · exact origin_of_map_declare h
  · cases h

/-- A declared default is never taken for an empty container. -/
theorem origin_declaredDefault {value : Json.Value} {s : Schema} {type : ResolvedType}
    (h : p.declaredDefault value s type = some d) : d.origin = .declared := by
  unfold declaredDefault at h
  split at h
  · cases h
    rfl
  split at h
  · exact origin_declaredArray h
  · exact origin_declaredMap h
  · exact origin_of_map_declare h
  · split at h
    · exact origin_of_map_declare h
    · exact origin_of_map_declare h
  · exact origin_of_map_declare h

end Profile

theorem ResolvedType.nullability_boxed (t : ResolvedType) :
    t.boxed.nullability = t.nullability := by
  unfold boxed
  split <;> rfl

namespace Resolver

variable (r : Resolver) (usage : Usage) (target : Schema) (shape : ResolvedType)

theorem nullability_finish :
    (r.finish usage target shape).nullability = usage.nullability target := by
  rw [finish]
  split
  · exact ResolvedType.nullability_boxed _
  · rfl

/-- The default is that of the type in use. -/
theorem defaultValue_finish : (r.finish usage target shape).defaultValue =
    r.profile.resolveDefault target (r.finish usage target shape)
      (usage.required.getD false) := rfl

end Resolver

/-- What a field says when its property is resolved. -/
theorem Field.follows_of_finish {r : Resolver} {usage : Usage} {target : Schema}
    {shape : ResolvedType} {f : Field} (husage : usage.required = some f.required)
    (hnullable : f.nullable = (target.nullableMarker == some true))
    (htype : f.type = r.finish usage target shape) : f.Follows r.profile target := by
  have hmarked : (target.nullableMarker = some true) = (f.nullable = true) := by
    rw [hnullable, beq_iff_eq]
  have hnullability :
      f.type.nullability = if f.nullable ∨ ¬f.required then .nullable else .nonNull := by
    rw [htype, r.nullability_finish, Usage.nullability, husage]
    simp only [hmarked, Bool.not_eq_true', Bool.not_eq_true]
  have hdefault : f.type.defaultValue = r.profile.resolveDefault target f.type f.required := by
    rw [htype, r.defaultValue_finish, husage]
    rfl
  refine ⟨hnullable, hnullability, fun hnone => ?_, fun hsome d hd => ?_⟩
  · have hempty : (f.type.container = .array ∧ f.required ∧ f.type.nullability = .nonNull) ↔
        (f.type.container = .array ∧ f.required ∧ ¬f.nullable) := by
      rw [hnullability]
      cases f.required <;> cases f.nullable <;> simp
    rw [hdefault, Profile.resolveDefault, hnone]
    dsimp only
    simp only [Profile.emptyDefault, hempty]
  · rw [hdefault, Profile.resolveDefault] at hd
    obtain ⟨value, hvalue⟩ := Option.ne_none_iff_exists'.mp hsome
    rw [hvalue] at hd
    exact Profile.origin_declaredDefault hd

/-! ### The fields of a model -/

namespace Resolver

variable {r : Resolver} {shape : Shape} {base m : Model} {owner location : String}
  {form : ModelForm} {st st' : Promotions}

/-- A field that is resolved is that of its property. -/
theorem isOf_of_field {q : Property} {f : Field}
    (h : (r.field shape owner location q).outcome st = (.ok f, st')) :
    f.IsOf r.components r.profile q := by
  obtain ⟨type, st₁, htype, h⟩ := Resolving.exists_of_outcome_bind h
  obtain ⟨target, htarget, h⟩ := Resolving.exists_of_outcome_lift_bind h
  obtain ⟨t, st₂, -, htype⟩ := Resolving.exists_of_outcome_bind htype
  obtain ⟨target', htarget', htype⟩ := Resolving.exists_of_outcome_lift_bind htype
  cases h
  cases htype
  -- the schema is looked up twice, with one answer
  rw [htarget] at htarget'
  cases htarget'
  exact ⟨rfl, rfl, target, htarget, Field.follows_of_finish rfl rfl rfl⟩

theorem isOf_of_fields {properties : List Property} {fields : List Field}
    (h : (r.fields shape owner location properties).outcome st = (.ok fields, st')) :
    List.Forall₂ (Field.IsOf r.components r.profile) properties fields := by
  obtain ⟨asked, st₁, hasked, h⟩ := Resolving.exists_of_outcome_bind h
  cases h
  refine forall₂_zipWith (fun q f identifier hf => ?_)
    (forall₂_of_outcome_mapM (fun _ _ _ _ => isOf_of_field) hasked) (by simp)
  exact hf.congr rfl rfl fun _ hfollows => hfollows.congr rfl rfl rfl rfl rfl

/-- The fields of a model are those of the properties of its form. -/
theorem isOf_of_modelOf (hbase : base.fields = [])
    (h : (r.modelOf shape base owner location form).outcome st = (.ok m, st')) :
    List.Forall₂ (Field.IsOf r.components r.profile) form.properties m.fields := by
  cases form with
  | enum | union | synonym =>
    obtain ⟨_, st₁, -, h⟩ := Resolving.exists_of_outcome_bind h
    cases h
    rw [hbase]
    exact .nil
  | object =>
    obtain ⟨fields, st₁, hfields, h⟩ := Resolving.exists_of_outcome_bind h
    obtain ⟨discriminator, st₂, -, h⟩ := Resolving.exists_of_outcome_bind h
    cases h
    exact isOf_of_fields hfields

end Resolver

theorem Renames.container_type (ρ : Renames) (p : Profile) (t : ResolvedType) :
    (ρ.type p t).container = t.container := by
  rw [ResolvedType.container, ResolvedType.container, ρ.kind_type]
  cases t.kind <;> rfl

/-- A field is that of its property under new names, too. -/
theorem Field.IsOf.renamed {c : Components} {p : Profile} {q : Property} {f : Field}
    (h : f.IsOf c p q) (ρ : Renames) : (ρ.field p f).IsOf c p q :=
  h.congr rfl rfl fun _ hfollows => hfollows.congr rfl rfl
    (ρ.nullability_type p f.type) (ρ.defaultValue_type p f.type)
    (ρ.container_type p f.type)

/-- The fields of a model are those of properties, in order. -/
def Model.HasFieldsOf (c : Components) (p : Profile) (properties : List Property) (m : Model) :
    Prop :=
  List.Forall₂ (Field.IsOf c p) properties m.fields

namespace Model.HasFieldsOf

variable {c : Components} {p : Profile} {properties : List Property} {m : Model}

theorem named (h : m.HasFieldsOf c p properties) (name : String) :
    (m.named name).HasFieldsOf c p properties :=
  List.forall₂_map_right_iff.mpr (h.imp fun _ _ hf =>
    hf.congr rfl rfl fun _ hfollows => hfollows.congr rfl rfl rfl rfl rfl)

theorem renamed (h : m.HasFieldsOf c p properties) (ρ : Renames) :
    (ρ.model p m).HasFieldsOf c p properties := by
  rcases eq_or_ne ρ [] with rfl | hne
  · exact h
  · rw [ρ.model_of_ne_nil p m hne]
    exact List.forall₂_map_right_iff.mpr (h.imp fun _ _ hf => hf.renamed ρ)

end Model.HasFieldsOf

section Output

variable {c : Contract} {p : Profile} {flags : Flags}

/-- The fields of the model of a named schema are those of the properties of the form of this
schema, whatever names it refers to in the output. -/
theorem Contract.IsModelOf.exists_isOf {e : String × SchemaNode} {m : Model}
    (h : c.IsModelOf p flags e m) : ∃ form, c.components.componentForm e.1 e.2 = .ok form ∧
      m.HasFieldsOf c.components p form.properties := by
  obtain ⟨hrun, -, -⟩ := h
  obtain ⟨st, hout, -⟩ := Resolver.exists_outcome_of_run hrun
  rw [Resolver.component_eq] at hout
  obtain ⟨form, hform, hout⟩ := Resolving.exists_of_outcome_lift_bind hout
  exact ⟨form, hform, Model.HasFieldsOf.renamed (Resolver.isOf_of_modelOf rfl hout) _⟩

/-- The fields of a promoted model are those of the properties of the form of its schema, by
whatever names the model and those to which it refers are known in the output. -/
theorem Contract.IsPromotedFor.exists_isOf {s : Schema} {m : Model}
    (h : c.IsPromotedFor p flags s m) : ∃ origin location form,
      c.components.modelForm origin location s = .ok form ∧
        m.HasFieldsOf c.components p form.properties :=
  h.exists_holds (Q := fun form m => m.HasFieldsOf c.components p form.properties)
    (fun hout => Resolver.isOf_of_modelOf rfl hout) (fun name h => h.named name)
    (fun _ h => h.renamed _) fun _ h => h

/-- Every model in an output has the fields of the properties of one schema of the contract, in
order: the model of a named schema has those of this schema, and any other model has those of a
schema for which it was promoted, by its name or by this with a number behind it. The properties
are those that make up the form of the schema. Each field says what the schema says to which its
property leads: it may be null exactly if this schema is marked so or the property need not be
present; without a declared default it is the empty array if it must be there and cannot be null,
and has no default otherwise; and a declared default is never taken for an empty array. -/
theorem fields_of_generate {out : TargetModel} (h : generate c p flags = .ok out) :
    List.Forall₂ (fun e m => c.IsModelOf p flags e m ∧
        ∃ form, c.components.componentForm e.1 e.2 = .ok form ∧
          m.HasFieldsOf c.components p form.properties)
      c.components.schemas (c.namedModels out) ∧
    ∀ m ∈ c.promotedModels out, ∃ s, c.Stands (.inline s) ∧ c.IsPromotedFor p flags s m ∧
      ∃ origin location form, c.components.modelForm origin location s = .ok form ∧
        m.HasFieldsOf c.components p form.properties := by
  refine ⟨(isModelOf_of_generate h).imp fun e m hm => ⟨hm, hm.exists_isOf⟩, fun m hm => ?_⟩
  obtain ⟨s, hs⟩ := isPromotedFor_of_generate h m hm
  exact ⟨s, hs.stands, hs, hs.exists_isOf⟩

end Output

/-- A contract with a basket, which has items and may have notes. Its unit is given by default, and
its label, which has no name, has lines and a color by default. -/
def Contract.basket : Contract := .ofSchemas
  [("Basket", .inline
    { type := some (.single .object)
      properties :=
        [("items", .inline { type := some (.single .array), items := some .text }),
         ("notes", .inline { type := some (.single .array), items := some .text }),
         ("unit", .inline { type := some (.single .string), defaultValue := some (.text "kg") }),
         ("label", .inline
           { type := some (.single .object)
             properties :=
               [("lines", .inline { type := some (.single .array), items := some .text }),
                ("colors", .inline
                  { type := some (.single .array), items := some .text
                    defaultValue := some (.array [.text "red"]) })]
             required := ["lines", "colors"] })]
      required := ["items", "unit", "label"] })]

/-- Of the arrays of a basket and of its label only those are empty by default that must be there
and have no other default. -/
theorem fields_of_basket : ∃ out, generate .basket .jaxrsSpec {} = .ok out ∧
    (out.models.flatMap fun m => m.fields.map fun f =>
      (f.owner, f.property, f.type.nullability, f.type.defaultValue.map DefaultValue.origin)) =
      [("Basket", "items", .nonNull, some .emptyContainer), ("Basket", "notes", .nullable, none),
       ("Basket", "unit", .nonNull, some .declared), ("Basket", "label", .nonNull, none),
       ("BasketLabel", "lines", .nonNull, some .emptyContainer),
       ("BasketLabel", "colors", .nonNull, some .declared)] ∧
    List.Forall₂ (fun e m => Contract.basket.IsModelOf .jaxrsSpec {} e m ∧
        ∃ form, Contract.basket.components.componentForm e.1 e.2 = .ok form ∧
          m.HasFieldsOf Contract.basket.components .jaxrsSpec form.properties)
      Contract.basket.components.schemas (Contract.basket.namedModels out) ∧
    ∀ m ∈ Contract.basket.promotedModels out, ∃ s, Contract.basket.Stands (.inline s) ∧
      Contract.basket.IsPromotedFor .jaxrsSpec {} s m ∧
      ∃ origin location form,
        Contract.basket.components.modelForm origin location s = .ok form ∧
        m.HasFieldsOf Contract.basket.components .jaxrsSpec form.properties := by
  have hrun : ∃ out, generate .basket .jaxrsSpec {} = .ok out ∧
      (out.models.flatMap fun m => m.fields.map fun f =>
        (f.owner, f.property, f.type.nullability, f.type.defaultValue.map DefaultValue.origin)) =
        [("Basket", "items", .nonNull, some .emptyContainer), ("Basket", "notes", .nullable, none),
         ("Basket", "unit", .nonNull, some .declared), ("Basket", "label", .nonNull, none),
         ("BasketLabel", "lines", .nonNull, some .emptyContainer),
         ("BasketLabel", "colors", .nonNull, some .declared)] :=
    exists_of_generate (by decide +kernel)
  obtain ⟨out, h, hfields⟩ := hrun
  exact ⟨out, h, hfields, fields_of_generate h⟩

end ApiModel
