import ApiModel.Generation.Renaming
import ApiModel.Profile.Builtin
import ApiModel.Proofs.Lists
import ApiModel.Proofs.Target.Labels

/-!
# What renaming does to types and models

Renaming sends every name that a type mentions to its new name, and leaves everything else that a
type holds. Where no name of a type has a new one, the type stays as it is, provided that its
rendered name is what the templates of the profile make of the names inside; for those are
rendered again.

## Main definitions

* `ResolvedType.Rendered`: the rendered name of a type is made by the templates of a profile, and
  so are those of the types that it holds.
* `Profile.DistinctWrappers`: a wrapper is known by its target.

## Main results

* `Renames.mentions_model`, `Renames.references_model`, `Renames.targets_model`,
  `Renames.enums_model`: what a renamed model mentions, refers to, maps to and declares.
* `Renames.references_operation`, `Renames.targets_operation`, `Renames.enums_operation`: the same
  for operations.
* `Renames.model_congr`: new names that agree on what a model mentions give the same model.
-/

namespace ApiModel

/-! ### What a renamed type yields -/

namespace Renames

variable (ρ ρ' : Renames) (p : Profile)

/-- A kind under the new names. -/
def kind : TypeKind ResolvedType → TypeKind ResolvedType
  | .model name => .model (ρ.of name)
  | .union u => .union ⟨ρ.types p u.members, u.discriminator.map ρ.discriminator⟩
  | .array t => .array (ρ.type p t)
  | .map t => .map (ρ.type p t)
  | .async t => .async (ρ.type p t)
  | .primitive => .primitive
  | .any => .any
  | .void => .void
  | .response => .response
  | .enum e => .enum e

theorem of_nil : of [] = id := rfl

theorem types_eq_map (ts : List ResolvedType) : ρ.types p ts = ts.map (ρ.type p) := by
  induction ts with
  | nil => rfl
  | cons t rest ih => rw [types, ih, List.map_cons]

theorem kind_type (t : ResolvedType) : (ρ.type p t).kind = ρ.kind p t.kind := by
  obtain ⟨name, target, kind, nullability, default⟩ := t
  cases kind with
  | model n =>
    simp only [type, Renames.kind, of]
    cases ρ.lookup n <;> rfl
  | _ => simp only [type, Renames.kind]

theorem kind_eq_bimap (k : TypeKind ResolvedType) : ρ.kind p k = k.bimap ρ.of (ρ.type p) := by
  cases k with
  | union u =>
    rw [kind, types_eq_map]
    rfl
  | _ => rfl

/-- New names change nothing that names and kinds are no part of. -/
theorem apply_type {α : Type} {f : ResolvedType → α}
    (hf : ∀ (t : ResolvedType) (name name' : String) (kind : TypeKind ResolvedType),
      f { t with name, target := { t.target with name := name' }, kind } = f t)
    (t : ResolvedType) : f (ρ.type p t) = f t := by
  obtain ⟨name, target, kind, nullability, default⟩ := t
  cases kind with
  | model n =>
    simp only [type]
    cases ρ.lookup n with
    | none => rfl
    | some new => exact hf ⟨name, target, .model n, nullability, default⟩ new new (.model new)
  | array u | map u | async u | union u =>
    simp only [type]
    exact hf ⟨name, target, _, nullability, default⟩ _ target.name _
  | _ => simp only [type]

theorem nullability_type (t : ResolvedType) : (ρ.type p t).nullability = t.nullability :=
  ρ.apply_type p (fun _ _ _ _ => rfl) t

theorem defaultValue_type (t : ResolvedType) : (ρ.type p t).defaultValue = t.defaultValue :=
  ρ.apply_type p (fun _ _ _ _ => rfl) t

theorem parts_kind (k : TypeKind ResolvedType) :
    (ρ.kind p k).parts = k.parts.map (ρ.type p) := by
  rw [kind_eq_bimap, TypeKind.parts_bimap]

section Collect

variable {α : Type} {f : TypeKind ResolvedType → List α} {g : α → α}

/-- What a renamed type yields follows from what a renamed kind yields. -/
theorem collect_type (h : ∀ k, f (ρ.kind p k) = (f k).map g) (t : ResolvedType) :
    (ρ.type p t).collect f = (t.collect f).map g := by
  induction t using ResolvedType.induction with
  | step t ih =>
    rw [ResolvedType.collect_eq, ResolvedType.collect_eq f t, kind_type, h, parts_kind,
      List.flatMap_map, List.map_append, List.map_flatMap]
    congr 1
    exact List.flatMap_congr ih

/-- What renamed types yield. -/
theorem collect_types (h : ∀ k, f (ρ.kind p k) = (f k).map g) (ts : List ResolvedType) :
    (ts.map (ρ.type p)).flatMap (ResolvedType.collect f) =
      (ts.flatMap (ResolvedType.collect f)).map g := by
  rw [List.flatMap_map, List.map_flatMap]
  exact List.flatMap_congr fun t _ => ρ.collect_type p h t

end Collect

theorem modelName_kind (k : TypeKind ResolvedType) :
    (ρ.kind p k).modelName = k.modelName.map ρ.of := by
  rw [kind_eq_bimap, TypeKind.modelName_bimap]

theorem enumType_kind (k : TypeKind ResolvedType) :
    (ρ.kind p k).enumType = k.enumType.map id := by
  cases k <;> simp [kind, TypeKind.enumType]

theorem discriminatorTargets_kind (k : TypeKind ResolvedType) :
    (ρ.kind p k).discriminatorTargets = k.discriminatorTargets.map ρ.of := by
  rw [kind_eq_bimap, TypeKind.discriminatorTargets_bimap]

theorem mentions_kind (k : TypeKind ResolvedType) :
    (ρ.kind p k).modelName ++ (ρ.kind p k).discriminatorTargets =
      (k.modelName ++ k.discriminatorTargets).map ρ.of := by
  rw [modelName_kind, discriminatorTargets_kind, List.map_append]

/-! ### What a renamed model mentions -/

theorem discriminatorTargets_map (d : Option Discriminator) :
    discriminatorTargets (d.map ρ.discriminator) = (discriminatorTargets d).map ρ.of := by
  cases d <;> simp [discriminatorTargets, discriminator, Function.comp_def]

variable (m : Model)

/-- A model all of whose parts are taken under the new names. -/
def rewritten : Model :=
  { m with
    fields := m.fields.map (ρ.field p)
    shape := ρ.shape p m.shape
    discriminator := m.discriminator.map ρ.discriminator
    parent := m.parent.map ρ.of }

theorem model_nil : model [] p m = m := rfl

theorem model_of_ne_nil (h : ρ ≠ []) : ρ.model p m = ρ.rewritten p m := by
  rw [model, if_neg (by simpa using h), rewritten]

theorem referencedTypes_model (h : ρ ≠ []) :
    (ρ.model p m).referencedTypes = m.referencedTypes.map (ρ.type p) := by
  rw [model_of_ne_nil ρ p m h, rewritten]
  simp only [Model.referencedTypes, Model.shapeTypes, List.map_append, List.map_map]
  congr 1
  cases m.shape <;> simp [shape, types_eq_map]

/-- What all types of a model keep under new names holds of the types of the renamed model. -/
theorem forall_types_model {T : ResolvedType → Prop} (hT : ∀ t, T t → T (ρ.type p t))
    (h : ∀ t ∈ m.referencedTypes, T t) :
    ∀ t ∈ (ρ.model p m).referencedTypes, T t := by
  rcases eq_or_ne ρ [] with rfl | hρ
  · exact h
  · intro t ht
    rw [ρ.referencedTypes_model p m hρ] at ht
    obtain ⟨u, hu, rfl⟩ := List.mem_map.mp ht
    exact hT u (h u hu)

theorem discriminator?_shape (s : ModelShape) :
    (ρ.shape p s).discriminator? = s.discriminator?.map ρ.discriminator := by
  cases s <;> rfl

theorem enumType_shape (s : ModelShape) : (ρ.shape p s).enumType = s.enumType := by
  cases s <;> rfl

/-- A renamed model mentions the new names of what the model mentions. -/
theorem mentions_model : (ρ.model p m).mentions = m.mentions.map ρ.of := by
  rcases eq_or_ne ρ [] with rfl | h
  · rw [model_nil, of_nil, List.map_id]
  · rw [Model.mentions, referencedTypes_model ρ p m h, model_of_ne_nil ρ p m h, rewritten]
    simp only [Model.mentions, List.map_append]
    rw [discriminator?_shape, discriminatorTargets_map, discriminatorTargets_map]
    congr 1
    · congr 2
      exact collect_types ρ p (f := fun k => k.modelName ++ k.discriminatorTargets)
        (ρ.mentions_kind p) m.referencedTypes
    · cases m.parent <;> rfl

theorem references_model : (ρ.model p m).references = m.references.map ρ.of := by
  rcases eq_or_ne ρ [] with rfl | h
  · rw [model_nil, of_nil, List.map_id]
  · rw [Model.references, referencedTypes_model ρ p m h, model_of_ne_nil ρ p m h, rewritten]
    simp only [Model.references, List.map_append]
    congr 1
    · exact ρ.collect_types p (ρ.modelName_kind p) m.referencedTypes
    · cases m.parent <;> rfl

theorem targets_model : (ρ.model p m).targets = m.targets.map ρ.of := by
  rcases eq_or_ne ρ [] with rfl | h
  · rw [model_nil, of_nil, List.map_id]
  · rw [Model.targets, referencedTypes_model ρ p m h, model_of_ne_nil ρ p m h, rewritten]
    simp only [Model.targets, List.map_append]
    rw [discriminator?_shape, discriminatorTargets_map, discriminatorTargets_map]
    congr 2
    exact ρ.collect_types p (ρ.discriminatorTargets_kind p) m.referencedTypes

/-- Renaming declares no enum and drops none. -/
theorem enums_model : (ρ.model p m).enums = m.enums := by
  rcases eq_or_ne ρ [] with rfl | h
  · rw [model_nil]
  · rw [Model.enums, referencedTypes_model ρ p m h, model_of_ne_nil ρ p m h, rewritten]
    simp only [Model.enums, enumType_shape]
    congr 1
    exact (ρ.collect_types p (ρ.enumType_kind p) m.referencedTypes).trans (List.map_id _)

@[simp] theorem name_model : (ρ.model p m).name = m.name := by
  rw [model]
  split <;> rfl

/-! ### What a renamed operation refers to -/

variable (op : ApiOperation)

theorem types_operation (h : ρ ≠ []) :
    (ρ.operation p op).types = op.types.map (ρ.type p) := by
  rw [operation, if_neg (by simpa using h)]
  simp only [ApiOperation.types, ApiOperation.referencedTypes, List.map_append, List.map_map]
  congr 1
  · cases op.requestBody <;> simp [Function.comp_def]
  · cases op.response <;> rfl

/-- What all types of an operation keep under new names holds of the types of the renamed
operation. -/
theorem forall_types_operation {T : ResolvedType → Prop} (hT : ∀ t, T t → T (ρ.type p t))
    (h : ∀ t ∈ op.types, T t) :
    ∀ t ∈ (ρ.operation p op).types, T t := by
  rcases eq_or_ne ρ [] with rfl | hρ
  · exact h
  · intro t ht
    rw [ρ.types_operation p op hρ] at ht
    obtain ⟨u, hu, rfl⟩ := List.mem_map.mp ht
    exact hT u (h u hu)

theorem references_operation : (ρ.operation p op).references = op.references.map ρ.of := by
  rcases eq_or_ne ρ [] with rfl | h
  · rw [of_nil, List.map_id]
    rfl
  · rw [ApiOperation.references, types_operation ρ p op h]
    exact ρ.collect_types p (ρ.modelName_kind p) op.types

theorem targets_operation : (ρ.operation p op).targets = op.targets.map ρ.of := by
  rcases eq_or_ne ρ [] with rfl | h
  · rw [of_nil, List.map_id]
    rfl
  · rw [ApiOperation.targets, types_operation ρ p op h]
    exact ρ.collect_types p (ρ.discriminatorTargets_kind p) op.types

theorem enums_operation : (ρ.operation p op).enums = op.enums := by
  rcases eq_or_ne ρ [] with rfl | h
  · rfl
  · rw [ApiOperation.enums, types_operation ρ p op h]
    exact (ρ.collect_types p (ρ.enumType_kind p) op.types).trans (List.map_id _)

end Renames

/-! ### Rendered names -/

/-- The rendered name of a type of a kind is what the templates of a profile make of the names
inside. -/
def ResolvedType.NamedByParts (p : Profile) (t : ResolvedType) : Prop :=
  match t.kind with
  | .array u => t.name = fill p.array.template u.name
  | .map u => t.name = fill p.map.template u.name
  | .async u => ∃ w : WrapperSyntax, (w = p.asyncWrapper ∨ p.reactiveWrapper = some w) ∧
      t.target = w.target ∧ t.name = fill w.template u.name
  | _ => True

/-- The rendered names of a type and of the types that it holds are made by the templates of a
profile. -/
def ResolvedType.Rendered (p : Profile) (t : ResolvedType) : Prop :=
  ∀ u ∈ t.nodes, u.NamedByParts p

/-- The two ways to wrap what is delivered later are told apart by their targets. -/
def Profile.DistinctWrappers (p : Profile) : Prop :=
  ∀ w, p.reactiveWrapper = some w → w.target ≠ p.asyncWrapper.target

theorem Profile.distinctWrappers_of_builtin {id : String} {p : Profile}
    (h : builtin? id = some p) : p.DistinctWrappers := by
  unfold builtin? at h
  split at h <;> cases h <;> rintro w ⟨⟩
  decide

/-- The wrapper of a rendered type is found by its target. -/
theorem Profile.DistinctWrappers.wrapperOf_eq {p : Profile} (hp : p.DistinctWrappers)
    {w : WrapperSyntax} (hw : w = p.asyncWrapper ∨ p.reactiveWrapper = some w) :
    Renames.wrapperOf p w.target = w := by
  rw [Renames.wrapperOf]
  rcases hw with rfl | hw
  · rw [if_pos rfl]
  · rw [if_neg (hp w hw), hw, Option.getD_some]

namespace ResolvedType

variable {p : Profile} {t : ResolvedType}

theorem Rendered.namedByParts (h : t.Rendered p) : t.NamedByParts p := by
  refine h t ?_
  rw [nodes_eq]
  exact List.mem_cons_self

theorem Rendered.of_mem_parts (h : t.Rendered p) {u : ResolvedType} (hu : u ∈ t.kind.parts) :
    u.Rendered p := by
  intro v hv
  refine h v ?_
  rw [nodes_eq]
  exact List.mem_cons_of_mem _ (List.mem_flatMap.mpr ⟨u, hu, hv⟩)

theorem mentions_subset_of_mem_parts {u : ResolvedType} (hu : u ∈ t.kind.parts) :
    u.mentions ⊆ t.mentions := by
  intro n hn
  rw [mentions, collect_eq]
  exact List.mem_append_right _ (List.mem_flatMap.mpr ⟨u, hu, hn⟩)

theorem mem_mentions_of_kind {n : String}
    (h : n ∈ t.kind.modelName ++ t.kind.discriminatorTargets) : n ∈ t.mentions := by
  rw [mentions, collect_eq]
  exact List.mem_append_left _ h

end ResolvedType

/-! ### New names that agree -/

namespace Renames

variable {ρ ρ' : Renames} {p : Profile}

theorem of_congr {n : String} (h : ρ.lookup n = ρ'.lookup n) : ρ.of n = ρ'.of n := by
  rw [of, of, h]

theorem discriminator_congr {d : Discriminator}
    (h : ∀ n ∈ d.mapping.map Prod.snd, ρ.lookup n = ρ'.lookup n) :
    ρ.discriminator d = ρ'.discriminator d :=
  Discriminator.mapTargets_congr fun n hn => of_congr (h n hn)

theorem discriminator_nil (d : Discriminator) : discriminator [] d = d :=
  congrFun Discriminator.mapTargets_id d

/-- New names that agree on what a type mentions give the same type. -/
theorem type_congr {t : ResolvedType} (h : ∀ n ∈ t.mentions, ρ.lookup n = ρ'.lookup n) :
    ρ.type p t = ρ'.type p t := by
  induction t using ResolvedType.induction with
  | step t ih =>
    have hparts (u : ResolvedType) (hu : u ∈ t.kind.parts) : ρ.type p u = ρ'.type p u :=
      ih u hu fun n hn => h n (ResolvedType.mentions_subset_of_mem_parts hu hn)
    have hkind (n : String) (hn : n ∈ t.kind.modelName ++ t.kind.discriminatorTargets) :=
      h n (ResolvedType.mem_mentions_of_kind hn)
    obtain ⟨name, target, kind, nullability, default⟩ := t
    cases kind with
    | model n => simp only [type, hkind n (by simp [TypeKind.modelName])]
    | array u | map u | async u => simp only [type, hparts u (by simp [TypeKind.parts])]
    | union u =>
      obtain ⟨members, d⟩ := u
      have hmembers : ρ.types p members = ρ'.types p members := by
        rw [types_eq_map, types_eq_map]
        exact List.map_congr_left hparts
      have hd : d.map ρ.discriminator = d.map ρ'.discriminator := by
        cases d with
        | none => rfl
        | some d =>
          rw [Option.map_some, Option.map_some, discriminator_congr fun n hn => hkind n hn]
      simp only [type, hmembers, hd]
    | _ => simp only [type]

/-- Where there are no new names, a rendered type is rendered as it was. -/
theorem type_nil (hp : p.DistinctWrappers) {t : ResolvedType} (ht : t.Rendered p) :
    type [] p t = t := by
  induction t using ResolvedType.induction with
  | step t ih =>
    have hparts (u : ResolvedType) (hu : u ∈ t.kind.parts) : type [] p u = u :=
      ih u hu (ht.of_mem_parts hu)
    have hname := ht.namedByParts
    obtain ⟨name, target, kind, nullability, default⟩ := t
    cases kind with
    | array u | map u =>
      obtain rfl := hname
      simp only [type, hparts u (by simp [TypeKind.parts])]
    | async u =>
      obtain ⟨w, hw, rfl, rfl⟩ := hname
      simp only [type, hparts u (by simp [TypeKind.parts]), hp.wrapperOf_eq hw]
    | union u =>
      obtain ⟨members, d⟩ := u
      have hmembers : types [] p members = members := by
        rw [types_eq_map]
        exact map_eq_self hparts
      have hd : d.map (discriminator []) = d := by
        cases d <;> simp [discriminator_nil]
      simp only [type, hmembers, hd]
    | model n => simp only [type, List.lookup_nil]
    | _ => simp only [type]

end Renames

/-! ### New names of a model that agree -/

/-- The rendered names of all types of a model are made by the templates of a profile. -/
def Model.Rendered (p : Profile) (m : Model) : Prop := ∀ t ∈ m.referencedTypes, t.Rendered p

namespace Model

variable {m : Model}

theorem mentions_subset_of_mem_types {t : ResolvedType} (ht : t ∈ m.referencedTypes) :
    t.mentions ⊆ m.mentions := by
  intro n hn
  simp only [mentions, List.mem_append]
  exact .inl (.inl (.inl (List.mem_flatMap.mpr ⟨t, ht, hn⟩)))

theorem mem_types_of_mem_fields {f : Field} (hf : f ∈ m.fields) : f.type ∈ m.referencedTypes :=
  List.mem_append_left _ (List.mem_map_of_mem hf)

theorem mem_types_of_mem_shapeTypes {t : ResolvedType} (ht : t ∈ m.shapeTypes) :
    t ∈ m.referencedTypes :=
  List.mem_append_right _ ht

end Model

namespace Renames

variable {ρ ρ' : Renames} {p : Profile} {m : Model}

theorem discriminator_map_congr {d : Option Discriminator}
    (h : ∀ n ∈ discriminatorTargets d, ρ.lookup n = ρ'.lookup n) :
    d.map ρ.discriminator = d.map ρ'.discriminator := by
  cases d with
  | none => rfl
  | some d =>
    rw [Option.map_some, Option.map_some,
      discriminator_congr fun n hn => h n (by simpa [discriminatorTargets] using hn)]

theorem shape_congr (htypes : ∀ t ∈ m.shapeTypes, ρ.type p t = ρ'.type p t)
    (hd : m.shape.discriminator?.map ρ.discriminator =
      m.shape.discriminator?.map ρ'.discriminator) :
    ρ.shape p m.shape = ρ'.shape p m.shape := by
  rw [Model.shapeTypes] at htypes
  cases hs : m.shape with
  | object | enum e => rfl
  | union u =>
    rw [hs] at htypes hd
    have hmembers : ρ.types p u.members = ρ'.types p u.members := by
      rw [types_eq_map, types_eq_map]
      exact List.map_congr_left htypes
    have hd' : u.discriminator.map ρ.discriminator = u.discriminator.map ρ'.discriminator := hd
    rw [shape, shape, hmembers, hd']
  | synonym t =>
    rw [hs] at htypes
    rw [shape, shape, htypes t (List.mem_singleton.mpr rfl)]

theorem shape_nil (hp : p.DistinctWrappers) (hm : m.Rendered p) :
    shape [] p m.shape = m.shape := by
  have htypes (t : ResolvedType) (ht : t ∈ m.shapeTypes) : type [] p t = t :=
    type_nil hp (hm t (Model.mem_types_of_mem_shapeTypes ht))
  rw [Model.shapeTypes] at htypes
  cases hs : m.shape with
  | object | enum e => rfl
  | union u =>
    rw [hs] at htypes
    have hmembers : types [] p u.members = u.members := by
      rw [types_eq_map]
      exact map_eq_self htypes
    have hd : u.discriminator.map (discriminator []) = u.discriminator := by
      cases u.discriminator <;> simp [discriminator_nil]
    rw [shape, hmembers, hd]
  | synonym t =>
    rw [hs] at htypes
    rw [shape, htypes t (List.mem_singleton.mpr rfl)]

theorem rewritten_congr (h : ∀ n ∈ m.mentions, ρ.lookup n = ρ'.lookup n) :
    ρ.rewritten p m = ρ'.rewritten p m := by
  have htype (t : ResolvedType) (ht : t ∈ m.referencedTypes) : ρ.type p t = ρ'.type p t :=
    type_congr fun n hn => h n (Model.mentions_subset_of_mem_types ht hn)
  have hfields : m.fields.map (ρ.field p) = m.fields.map (ρ'.field p) :=
    List.map_congr_left fun f hf => by
      rw [field, field, htype f.type (Model.mem_types_of_mem_fields hf)]
  have hshape : ρ.shape p m.shape = ρ'.shape p m.shape :=
    shape_congr (fun t ht => htype t (Model.mem_types_of_mem_shapeTypes ht))
      (discriminator_map_congr fun n hn => h n (by simp [Model.mentions, hn]))
  have hd : m.discriminator.map ρ.discriminator = m.discriminator.map ρ'.discriminator :=
    discriminator_map_congr fun n hn => h n (by simp [Model.mentions, hn])
  have hparent : m.parent.map ρ.of = m.parent.map ρ'.of := by
    cases hm : m.parent with
    | none => rfl
    | some n =>
      rw [Option.map_some, Option.map_some, of_congr (h n (by simp [Model.mentions, hm]))]
  rw [rewritten, rewritten, hfields, hshape, hd, hparent]

theorem rewritten_nil (hp : p.DistinctWrappers) (hm : m.Rendered p) :
    rewritten [] p m = m := by
  have hfields : m.fields.map (field [] p) = m.fields :=
    map_eq_self fun f hf => by
      rw [field, type_nil hp (hm f.type (Model.mem_types_of_mem_fields hf))]
  have hd : m.discriminator.map (discriminator []) = m.discriminator := by
    cases m.discriminator <;> simp [discriminator_nil]
  rw [rewritten, hfields, shape_nil hp hm, hd, of_nil, Option.map_id_apply]

/-- Rewriting leaves a rendered model as it is where nothing is renamed, so there is no need to
leave it out. -/
theorem model_eq_rewritten (hp : p.DistinctWrappers) (hm : m.Rendered p) :
    ρ.model p m = ρ.rewritten p m := by
  rcases eq_or_ne ρ [] with rfl | h
  · rw [model_nil, rewritten_nil hp hm]
  · exact model_of_ne_nil ρ p m h

/-- New names that agree on what a rendered model mentions give the same model. -/
theorem model_congr (hp : p.DistinctWrappers) (hm : m.Rendered p)
    (h : ∀ n ∈ m.mentions, ρ.lookup n = ρ'.lookup n) : ρ.model p m = ρ'.model p m := by
  rw [model_eq_rewritten hp hm, model_eq_rewritten hp hm, rewritten_congr h]

end Renames

end ApiModel
