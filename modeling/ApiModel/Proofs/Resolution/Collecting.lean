import ApiModel.Proofs.Resolution.Law
import ApiModel.Proofs.Target.Nodes

/-!
# Laws about what types yield

Of the types that a resolver makes, only those that refer to models and those that are enums
carry something of the contract. What is said of all that the nodes of a type yield is therefore
a law, as soon as it holds at references and at enums.

## Main definitions

* `Hollow`: a reading of kinds that yields nothing at containers and at kinds without a name.
* `Silent`: one that yields something only at models and enums.
* `Resolver.Law.collecting`: the law about what such a reading yields.

## Main results

* `Resolver.IsModel.holds`, `Resolver.IsOperation.holds`: what holds of the shapes, and of the
  shapes in use, holds of the types of models and of those that operations exchange.
* `Resolver.IsModel.forall_collect`, `Resolver.IsOperation.forall_collect`: what holds of the
  shapes holds of the types of models and operations.
-/

namespace ApiModel

variable {α : Type} {f : TypeKind ResolvedType → List α}

/-- A reading of kinds that yields something only at references to models, at enums and at
unions. -/
structure Hollow (f : TypeKind ResolvedType → List α) : Prop where
  primitive : f .primitive = []
  any : f .any = []
  void : f .void = []
  response : f .response = []
  array (t : ResolvedType) : f (.array t) = []
  map (t : ResolvedType) : f (.map t) = []
  async (t : ResolvedType) : f (.async t) = []

/-- A reading of kinds that yields something only at references to models and at enums. -/
structure Silent (f : TypeKind ResolvedType → List α) : Prop extends Hollow f where
  union (u : UnionType ResolvedType) : f (.union u) = []

theorem hollow_modelName : Hollow TypeKind.modelName :=
  ⟨rfl, rfl, rfl, rfl, fun _ => rfl, fun _ => rfl, fun _ => rfl⟩

theorem hollow_enumType : Hollow TypeKind.enumType :=
  ⟨rfl, rfl, rfl, rfl, fun _ => rfl, fun _ => rfl, fun _ => rfl⟩

theorem hollow_discriminatorTargets : Hollow TypeKind.discriminatorTargets :=
  ⟨rfl, rfl, rfl, rfl, fun _ => rfl, fun _ => rfl, fun _ => rfl⟩

theorem silent_modelName : Silent TypeKind.modelName := ⟨hollow_modelName, fun _ => rfl⟩

theorem silent_enumType : Silent TypeKind.enumType := ⟨hollow_enumType, fun _ => rfl⟩

/-! ### What types are made of yields what is in them -/

theorem kind_elementRule_apply (t : ResolvedType) (rule : ElementRule) :
    (rule.apply t).kind = t.kind := by
  cases rule <;> simp [ElementRule.apply]

theorem Hollow.collect_wrap (hf : Hollow f) (layer : Layer) (p : Profile) (t : ResolvedType) :
    (layer.wrap p t).collect f = t.collect f := by
  cases layer with
  | array rule | map rule =>
    rw [ResolvedType.collect_eq]
    simp only [Layer.wrap, ContainerSyntax.of, hf.array, hf.map, TypeKind.parts,
      List.flatMap_singleton, List.nil_append]
    exact ResolvedType.collect_congr f (kind_elementRule_apply t rule)

theorem Hollow.collect_walk (hf : Hollow f) (w : Walk) (p : Profile) (t : ResolvedType) :
    (w.wrap p t).collect f = t.collect f := by
  have hwrap (layers : List Layer) :
      (layers.foldr (fun layer t => layer.wrap p t) t).collect f = t.collect f := by
    induction layers with
    | nil => rfl
    | cons layer layers ih => exact (hf.collect_wrap layer p _).trans ih
  exact hwrap w.layers

theorem Hollow.collect_primitive (hf : Hollow f) {p : Profile} {type : SchemaType}
    {format : Option String} {location : String} {t : ResolvedType}
    (h : p.primitive type format location = .ok t) : t.collect f = [] := by
  rw [Profile.primitive] at h
  split at h <;> cases h
  simp [hf.primitive, TypeKind.parts]

theorem Silent.collect_union (hf : Silent f) (target : TargetType)
    (u : UnionType ResolvedType) :
    (ResolvedType.ofTarget target (.union u)).collect f =
      u.members.flatMap (ResolvedType.collect f) := by
  simp [hf.union, TypeKind.parts]

/-- What is returned in code yields nothing but what the response of the contract yields. -/
theorem Hollow.exists_of_mem_returnType (hf : Hollow f) (p : Profile) (response : ResponseType)
    (flags : Flags) {a : α} (ha : a ∈ (p.returnShape response flags).returnType.collect f) :
    ∃ t, response = .content t ∧ a ∈ t.collect f := by
  set type := if p.wrapsResponse flags then .ofTarget p.response .response
    else p.responseType response with htype
  have hpayload : (p.asyncPayload type).collect f = type.collect f :=
    ResolvedType.collect_congr f (by unfold Profile.asyncPayload; split <;> simp)
  have hasync : (p.async flags (p.asyncPayload type)).collect f = type.collect f := by
    rw [ResolvedType.collect_eq]
    simp [Profile.async, hf.async, TypeKind.parts, hpayload]
  have hmem : a ∈ type.collect f := by
    simp only [Profile.returnShape, ← htype] at ha
    split at ha
    · rwa [hasync] at ha
    · exact ha
  rw [htype] at hmem
  split at hmem
  · simp [hf.response, TypeKind.parts] at hmem
  · cases response with
    | content t => exact ⟨t, rfl, hmem⟩
    | noContent => simp [Profile.responseType, hf.void, TypeKind.parts] at hmem

namespace Resolver

variable (r : Resolver)

@[simp] theorem collect_any (hf : Hollow f) : r.any.collect f = [] := by
  simp [any, hf.any, TypeKind.parts]

@[simp] theorem kind_finish (usage : Usage) (target : Schema) (t : ResolvedType) :
    (r.finish usage target t).kind = t.kind := by
  rw [finish]
  dsimp only
  split <;> simp

variable {r}

/-! ### From shapes to types in use -/

section Holds

variable {T : ResolvedType → Prop}
  (hT : ∀ usage target t, T t → T (r.finish usage target t))

include hT

theorem Used.holds {usage : Usage} {node : SchemaNode} {t : ResolvedType}
    (h : r.Used T usage node t) : T t := by
  obtain ⟨target, shape, -, hshape, rfl⟩ := h
  exact hT usage target shape hshape

theorem AreFields.holds {owner : String} {properties : List Property} {fields : List Field}
    (h : r.AreFields T owner properties fields) : ∀ field ∈ fields, T field.type := by
  obtain ⟨asked, hasked, rfl⟩ := h
  intro field hfield
  obtain ⟨field', hfield', heq⟩ := exists_of_mem_numberFields hfield
  obtain ⟨p, -, hp⟩ := exists_of_forall₂ hasked hfield'
  obtain ⟨location, hused⟩ := hp.type
  rw [heq]
  exact hused.holds hT

/-- What holds of the shapes that a model is built from, in use as well, holds of its types. -/
theorem IsModel.holds {name : Name} {m : Model} (h : r.IsModel T name m) :
    ∀ t ∈ m.referencedTypes, T t := by
  cases h with
  | enum => simp [Model.referencedTypes, Model.shapeTypes]
  | union hu => simpa [Model.referencedTypes, Model.shapeTypes] using hu.members
  | synonym hused => simpa [Model.referencedTypes, Model.shapeTypes] using hused.holds hT
  | object _ hfields =>
    simpa [Model.referencedTypes, Model.shapeTypes] using hfields.holds hT

/-- What holds of the shapes that an operation is built from, in use as well, holds of all that it
exchanges. -/
theorem IsOperation.holds (hany : T r.any) {op : ApiOperation} (h : r.IsOperation T op) :
    ∀ t ∈ op.exchangedTypes, T t := by
  intro t ht
  simp only [ApiOperation.exchangedTypes, List.mem_append, List.mem_map, Option.mem_toList] at ht
  rcases ht with (⟨q, hq, rfl⟩ | ⟨b, hb, rfl⟩) | ht
  · obtain ⟨declared, asked, hasked, hparameters⟩ := h.parameters
    obtain ⟨q', hq', heq⟩ := exists_of_mem_numberParameters (hparameters ▸ hq)
    obtain ⟨_, -, hq''⟩ := exists_of_forall₂ hasked hq'
    rw [heq]
    rcases hq''.type with ⟨-, htype⟩ | ⟨_, _, _, -, hused⟩
    · rwa [htype]
    · exact hused.holds hT
  · rcases h.requestBody b hb with htype | ⟨_, _, -, hused⟩
    · rwa [htype]
    · exact hused.holds hT
  · rcases h.response with hnone | ⟨_, _, _, t', hused, hcontent⟩
    · simp [hnone] at ht
    · obtain rfl : t = t' := by simpa [hcontent] using ht
      exact hused.holds hT

end Holds

variable {P : α → Prop}

/-- Its use adds nothing to what a shape yields. -/
theorem forall_collect_finish (usage : Usage) (target : Schema) (t : ResolvedType)
    (h : ∀ a ∈ t.collect f, P a) : ∀ a ∈ (r.finish usage target t).collect f, P a := by
  rwa [ResolvedType.collect_congr f (r.kind_finish usage target t)]

theorem Used.forall_collect {usage : Usage} {node : SchemaNode} {t : ResolvedType}
    (h : r.Used (fun t => ∀ a ∈ t.collect f, P a) usage node t) : ∀ a ∈ t.collect f, P a :=
  h.holds forall_collect_finish

/-- What holds of the shapes that a model is built from holds of its types. -/
theorem IsModel.forall_collect {name : Name} {m : Model}
    (h : r.IsModel (fun t => ∀ a ∈ t.collect f, P a) name m) :
    ∀ t ∈ m.referencedTypes, ∀ a ∈ t.collect f, P a :=
  h.holds forall_collect_finish

/-- What holds of the shapes that an operation is built from holds of its types. -/
theorem IsOperation.forall_collect (hf : Hollow f) {op : ApiOperation}
    (h : r.IsOperation (fun t => ∀ a ∈ t.collect f, P a) op) :
    ∀ t ∈ op.types, ∀ a ∈ t.collect f, P a := by
  have hexchanged : ∀ t ∈ op.exchangedTypes, ∀ a ∈ t.collect f, P a :=
    h.holds forall_collect_finish (by simp [hf])
  intro t ht
  rcases ApiOperation.mem_types.mp ht with ht | rfl
  · exact hexchanged t ht
  · intro a ha
    rw [h.shape] at ha
    obtain ⟨t, ht, hmem⟩ := hf.exists_of_mem_returnType _ _ _ ha
    exact hexchanged t (ApiOperation.mem_exchangedTypes_of_response ht) a hmem

namespace Law

/-- The law about what a reading yields. -/
def collecting (hf : Silent f) (P : List Model → α → Prop) (M : List Model → Model → Prop)
    (mono : ∀ {ms ms' : List Model} {a : α}, ms <+: ms' → P ms a → P ms' a)
    (named : ∀ {ms : List Model} {name : String}, r.components.IsModelName name →
      ∀ a ∈ f (.model name), P ms a)
    (promoted : ∀ {ms : List Model} {m : Model}, m ∈ ms → ∀ a ∈ f (.model m.name.text), P ms a)
    (enum : ∀ {ms : List Model} {s : Schema} {location : String} {e : EnumType},
      r.profile.enumType r.flags s location = .ok e → ∀ a ∈ f (.enum e), P ms a)
    (built : ∀ {ms : List Model} {text : String} {m : Model},
      r.IsModel (fun t => ∀ a ∈ t.collect f, P ms a) (Name.ofText text) m → M ms m) :
    r.Law where
  type ms t := ∀ a ∈ t.collect f, P ms a
  model := M
  type_mono hms ht a ha := mono hms (ht a ha)
  any ms := by simp [hf.toHollow]
  named h := by simpa [ResolvedType.ofModel, TypeKind.parts] using named h
  promoted h := by simpa [ResolvedType.ofModel, TypeKind.parts] using promoted h
  enum h := by simpa [TypeKind.parts] using enum h
  primitive h := by simp [hf.collect_primitive h]
  union hu := by
    rw [hf.collect_union]
    simpa using fun a t ht => hu.members t ht a
  array n ht := by rwa [hf.collect_wrap]
  map n ht := by rwa [hf.collect_wrap]
  arrayOfAny ms := by simp [hf.collect_wrap, hf.toHollow]
  mapOfAny ms := by simp [hf.collect_wrap, hf.toHollow]
  built := built

end Law

end Resolver

end ApiModel
