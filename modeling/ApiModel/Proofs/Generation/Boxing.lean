import ApiModel.Proofs.Generation.Output
import ApiModel.Proofs.Generation.Rendering

/-!
# Primitives in their places

A primitive of a target platform cannot be null, and it can be neither an element of a container
nor the payload of what is delivered later. In each of these places the object equivalent is taken
instead, each time by another part of the program: when a schema is used, when a container is built,
and when what is returned in code is chosen. The profile has to do its part: each of its primitives
needs an object equivalent, and it must ask for objects in all of these places.

## Main definitions

* `TypeKind.elements`: the types for which a kind needs objects.
* `ResolvedType.InPlace`, `ResolvedType.PrimitivesInPlace`: a type is no primitive where it needs to
  be an object, and the same at any depth.
* `Profile.BoxesPrimitives`: what a profile has to provide.
* `TargetModel.types`: all types of an output.

## Main results

* `Resolver.boxingLaw`, `boxingLaw`: every part of a resolver and every step of the generation keeps
  primitives in their places.
* `primitivesInPlace_of_generate`: they are in their places in the output.
* `boxed_of_generate`: the same for JAX-RS.
-/

namespace ApiModel

/-- A type of the platform has an object equivalent if it is a primitive. -/
def TargetType.Boxable (t : TargetType) : Prop := t.primitive = true → t.boxed.isSome = true

instance (t : TargetType) : Decidable t.Boxable :=
  inferInstanceAs (Decidable (t.primitive = true → t.boxed.isSome = true))

theorem TargetType.Boxable.of_object {t : TargetType} (h : t.primitive = false) : t.Boxable :=
  fun hprimitive => absurd hprimitive (by rw [h]; decide)

/-- The elements of a container and the payload of what is delivered later. -/
def TypeKind.elements {τ : Type} : TypeKind τ → List τ
  | array t | map t | async t => [t]
  | primitive | any | void | response | model _ | enum _ | union _ => []

/-- A type has an object equivalent, is an object if it may be null, and holds no primitive where it
needs objects. -/
structure ResolvedType.InPlace (t : ResolvedType) : Prop where
  boxable : t.target.Boxable
  nullable : t.nullability = .nullable → t.target.primitive = false
  elements : ∀ u ∈ t.kind.elements, u.target.primitive = false

/-- A type and all types that it holds are objects where they need to be. -/
def ResolvedType.PrimitivesInPlace (t : ResolvedType) : Prop := ∀ u ∈ t.nodes, u.InPlace

/-- A profile whose primitives have object equivalents, and that asks for them wherever a primitive
cannot stand. -/
structure Profile.BoxesPrimitives (p : Profile) : Prop where
  rows : ∀ row ∈ p.rows, row.target.Boxable
  any : p.any.primitive = false
  void : p.void.Boxable
  response : p.response.Boxable
  containers : p.ObjectContainers
  asyncWrapper : p.asyncWrapper.target.Boxable
  reactiveWrapper : ∀ w ∈ p.reactiveWrapper, w.target.Boxable
  nullable : p.boxNullablePrimitives = true
  async : p.asyncRequiresBoxed = true

theorem Profile.jaxrsSpec_boxesPrimitives : jaxrsSpec.BoxesPrimitives where
  rows := by decide
  any := rfl
  void := by decide
  response := by decide
  containers := ⟨rfl, rfl⟩
  asyncWrapper := by decide
  reactiveWrapper := by decide
  nullable := rfl
  async := rfl

/-! ### Making types -/

namespace ResolvedType

variable {t : ResolvedType}

theorem primitivesInPlace_iff : t.PrimitivesInPlace ↔
    t.InPlace ∧ ∀ u ∈ t.kind.parts, u.PrimitivesInPlace :=
  forall_nodes_iff

/-- The object equivalent of a type is no primitive. -/
theorem primitive_boxed (h : t.target.Boxable) : t.boxed.target.primitive = false := by
  unfold boxed
  rcases hprimitive : t.target.primitive with _ | _
  · exact hprimitive
  · obtain ⟨name, hname⟩ := Option.isSome_iff_exists.mp (h hprimitive)
    rw [hname]
    rfl

/-- Whether a type may be null is no matter of its object equivalent. -/
theorem boxed_marked (t : ResolvedType) (nullability : Nullability) :
    boxed { t with nullability } = { t.boxed with nullability } := by
  obtain ⟨name, ⟨_, _, _ | _, _ | _⟩, kind, _, default⟩ := t <;> rfl

namespace PrimitivesInPlace

theorem boxable (h : t.PrimitivesInPlace) : t.target.Boxable :=
  (primitivesInPlace_iff.mp h).1.boxable

theorem boxed (h : t.PrimitivesInPlace) : t.boxed.PrimitivesInPlace := by
  obtain ⟨htype, hparts⟩ := primitivesInPlace_iff.mp h
  have hobject := primitive_boxed htype.boxable
  refine primitivesInPlace_iff.mpr ⟨⟨.of_object hobject, fun _ => hobject, ?_⟩, ?_⟩
  · rw [kind_boxed]
    exact htype.elements
  · rw [kind_boxed]
    exact hparts

/-- What is no primitive may be null. -/
theorem marked (h : t.PrimitivesInPlace) {nullability : Nullability}
    (hnullable : nullability = .nullable → t.target.primitive = false)
    (defaultValue : Option DefaultValue) :
    PrimitivesInPlace { t with nullability, defaultValue } := by
  obtain ⟨htype, hparts⟩ := primitivesInPlace_iff.mp h
  exact primitivesInPlace_iff.mpr ⟨⟨htype.boxable, hnullable, htype.elements⟩, hparts⟩

end PrimitivesInPlace

/-- A type of which nothing is known but its target and what it holds. -/
theorem primitivesInPlace_ofTarget {target : TargetType} {kind : TypeKind ResolvedType}
    (htarget : target.Boxable) (helements : kind.elements = [])
    (hparts : ∀ u ∈ kind.parts, u.PrimitivesInPlace) :
    (ofTarget target kind).PrimitivesInPlace := by
  refine primitivesInPlace_iff.mpr ⟨⟨htarget, nofun, fun u hu => ?_⟩, hparts⟩
  rw [kind_ofTarget, helements] at hu
  cases hu

theorem primitivesInPlace_ofModel (n : String) : (ofModel n).PrimitivesInPlace :=
  primitivesInPlace_ofTarget (.of_object rfl) rfl (List.forall_mem_nil _)

end ResolvedType

/-! ### The shapes of a resolver -/

open ResolvedType

section Shapes

variable {p : Profile} {t : ResolvedType}

/-- A container of objects. -/
theorem primitivesInPlace_container {s : ContainerSyntax}
    {kind : ResolvedType → TypeKind ResolvedType} (hs : s.target.primitive = false)
    (helements : (kind t).elements = [t]) (hparts : (kind t).parts = [t])
    (ht : t.PrimitivesInPlace) (hobject : t.target.primitive = false) :
    (s.of t kind).PrimitivesInPlace := by
  refine primitivesInPlace_iff.mpr ⟨⟨.of_object hs, nofun, fun u hu => ?_⟩,
    fun u hu => ?_⟩
  · obtain rfl : u = t := List.mem_singleton.mp (helements ▸ hu)
    exact hobject
  · obtain rfl : u = t := List.mem_singleton.mp (hparts ▸ hu)
    exact ht

/-- A container of what is an object already, or becomes one. -/
theorem primitivesInPlace_wrap (hp : p.ObjectContainers) (layer : Layer) {rule : ElementRule}
    (hlayer : layer = .array rule ∨ layer = .map rule) (ht : (rule.apply t).PrimitivesInPlace)
    (hobject : (rule.apply t).target.primitive = false) :
    (layer.wrap p t).PrimitivesInPlace := by
  rcases hlayer with rfl | rfl
  · exact primitivesInPlace_container hp.array rfl rfl ht hobject
  · exact primitivesInPlace_container hp.map rfl rfl ht hobject

/-- As an element a type is its object equivalent. -/
theorem primitivesInPlace_element (ht : t.PrimitivesInPlace) (n : Nullability) :
    ((ElementRule.boxed n).apply t).PrimitivesInPlace ∧
      ((ElementRule.boxed n).apply t).target.primitive = false :=
  have hobject := primitive_boxed ht.boxable
  ⟨ht.boxed.marked (fun _ => hobject) _, hobject⟩

/-- The types of the platform in the table have object equivalents where they are primitives. -/
theorem Profile.BoxesPrimitives.of_primitive (hp : p.BoxesPrimitives) {type : SchemaType}
    {format : Option String} {location : String}
    (h : p.primitive type format location = .ok t) : t.PrimitivesInPlace := by
  rw [Profile.primitive] at h
  split at h <;> cases h
  next target hlookup =>
    obtain ⟨row, hrow, rfl⟩ := Option.map_eq_some_iff.mp hlookup
    have hmem : row ∈ p.rows := by
      rcases Option.or_eq_some_iff.mp hrow with hrow | ⟨-, hrow⟩ <;>
        exact List.mem_of_find?_eq_some hrow
    exact primitivesInPlace_ofTarget (hp.rows row hmem) rfl (List.forall_mem_nil _)

namespace Resolver

variable {r : Resolver}

theorem primitivesInPlace_any (hp : r.profile.BoxesPrimitives) : r.any.PrimitivesInPlace :=
  primitivesInPlace_ofTarget (.of_object hp.any) rfl (List.forall_mem_nil _)

/-- Where it may be null, a shape is used as its object equivalent. -/
theorem primitivesInPlace_finish (hp : r.profile.BoxesPrimitives) (usage : Usage) (target : Schema)
    (shape : ResolvedType) (h : shape.PrimitivesInPlace) :
    (r.finish usage target shape).PrimitivesInPlace := by
  rw [finish]
  by_cases hnullable : usage.nullability target = .nullable
  · rw [if_pos ⟨hnullable, hp.nullable⟩, boxed_marked]
    exact h.boxed.marked (fun _ => primitive_boxed h.boxable) _
  · rw [if_neg fun hboth => hnullable hboth.1]
    exact h.marked (fun heq => absurd heq hnullable) _

/-- The shapes of a resolver have primitives in their places only. -/
def boxingLaw (r : Resolver) (hp : r.profile.BoxesPrimitives) : r.Law where
  type _ t := t.PrimitivesInPlace
  model _ m := ∀ t ∈ m.referencedTypes, t.PrimitivesInPlace
  type_mono _ ht := ht
  any _ := primitivesInPlace_any hp
  named _ := primitivesInPlace_ofModel _
  promoted _ := primitivesInPlace_ofModel _
  enum _ := primitivesInPlace_ofTarget (.of_object rfl) rfl (List.forall_mem_nil _)
  primitive h := hp.of_primitive h
  union hu := primitivesInPlace_ofTarget (.of_object hp.any) rfl hu.members
  array n ht := primitivesInPlace_wrap hp.containers _ (.inl rfl)
    (primitivesInPlace_element ht n).1 (primitivesInPlace_element ht n).2
  map n ht := primitivesInPlace_wrap hp.containers _ (.inr rfl)
    (primitivesInPlace_element ht n).1 (primitivesInPlace_element ht n).2
  arrayOfAny _ :=
    primitivesInPlace_wrap hp.containers _ (.inl rfl) (primitivesInPlace_any hp) hp.any
  mapOfAny _ :=
    primitivesInPlace_wrap hp.containers _ (.inr rfl) (primitivesInPlace_any hp) hp.any
  built hm := hm.holds (primitivesInPlace_finish hp)

end Resolver

/-! ### What is returned in code -/

namespace Profile

variable {response : ResponseType} {flags : Flags}

theorem BoxesPrimitives.wrapper (hp : p.BoxesPrimitives) (flags : Flags) :
    (p.wrapper flags).target.Boxable := by
  rcases p.wrapper_cases flags with h | h
  · rw [h]
    exact hp.asyncWrapper
  · exact hp.reactiveWrapper _ h

theorem primitivesInPlace_payload (hp : p.BoxesPrimitives)
    (h : ∀ t, response = .content t → t.PrimitivesInPlace) :
    (p.payload response flags).PrimitivesInPlace := by
  rw [payload]
  split
  · exact primitivesInPlace_ofTarget hp.response rfl (List.forall_mem_nil _)
  · cases response with
    | content t => exact h t rfl
    | noContent => exact primitivesInPlace_ofTarget hp.void rfl (List.forall_mem_nil _)

/-- What is returned in code has primitives in their places only: what is delivered later is an
object. -/
theorem primitivesInPlace_returnType (hp : p.BoxesPrimitives)
    (h : ∀ t, response = .content t → t.PrimitivesInPlace) :
    (p.returnShape response flags).returnType.PrimitivesInPlace := by
  have hpayload : (p.payload response flags).PrimitivesInPlace := primitivesInPlace_payload hp h
  rw [returnType_eq]
  split
  · rw [asyncPayload, if_pos hp.async]
    refine primitivesInPlace_iff.mpr ⟨⟨hp.wrapper flags, nofun, fun u hu => ?_⟩,
      fun u hu => ?_⟩
    · obtain rfl := List.mem_singleton.mp hu
      exact primitive_boxed hpayload.boxable
    · obtain rfl := List.mem_singleton.mp hu
      exact hpayload.boxed
  · exact hpayload

end Profile

end Shapes

/-- The types of an operation have primitives in their places only. -/
theorem Resolver.IsOperation.primitivesInPlace {r : Resolver} (hp : r.profile.BoxesPrimitives)
    {op : ApiOperation} (h : r.IsOperation ResolvedType.PrimitivesInPlace op) :
    ∀ t ∈ op.types, t.PrimitivesInPlace := by
  have hexchanged : ∀ t ∈ op.exchangedTypes, t.PrimitivesInPlace :=
    h.holds (primitivesInPlace_finish hp) (primitivesInPlace_any hp)
  intro t ht
  rcases ApiOperation.mem_types.mp ht with ht | rfl
  · exact hexchanged t ht
  · rw [h.shape]
    exact Profile.primitivesInPlace_returnType hp fun t ht =>
      hexchanged t (ApiOperation.mem_exchangedTypes_of_response ht)

/-! ### New names -/

section Renaming

variable {p : Profile} {t : ResolvedType}

theorem Renames.elements_kind (ρ : Renames) (k : TypeKind ResolvedType) :
    (ρ.kind p k).elements = k.elements.map (ρ.type p) := by
  cases k <;> rfl

/-- New names make no primitive. -/
theorem ResolvedType.PrimitivesInPlace.renamed (h : t.PrimitivesInPlace) (ρ : Renames) :
    (ρ.type p t).PrimitivesInPlace := by
  have hprimitive (u : ResolvedType) : (ρ.type p u).target.primitive = u.target.primitive :=
    ρ.apply_type p (f := fun u => u.target.primitive) (fun _ _ _ _ => rfl) u
  have hboxable (u : ResolvedType) : (ρ.type p u).target.Boxable = u.target.Boxable :=
    ρ.apply_type p (f := fun u => u.target.Boxable) (fun _ _ _ _ => rfl) u
  refine ρ.forall_nodes_type (fun u hin => ?_) h
  refine ⟨?_, ?_, fun e he => ?_⟩
  · rw [hboxable]
    exact hin.boxable
  · rw [ρ.nullability_type, hprimitive]
    exact hin.nullable
  · rw [ρ.kind_type, ρ.elements_kind] at he
    obtain ⟨e', he', rfl⟩ := List.mem_map.mp he
    rw [hprimitive]
    exact hin.elements e' he'

theorem ApiOperation.types_named (op : ApiOperation) (name : String) :
    (op.named name).types = op.types := by
  rw [named]
  split <;> rfl

end Renaming

/-! ### Every step of the generation -/

/-- Taking models keeps primitives in their places. -/
theorem Registry.Sound.primitivesInPlace_adopt {p : Profile} {reg : Registry}
    {schemaNames : List String} {promoted : List Model} (h : reg.Sound schemaNames)
    (hreg : ∀ e ∈ reg.entries, ∀ t ∈ e.2.referencedTypes, t.PrimitivesInPlace)
    (hpromoted : ∀ m ∈ promoted, ∀ t ∈ m.referencedTypes, t.PrimitivesInPlace) :
    ∀ e ∈ (reg.adopt p promoted).2.entries, ∀ t ∈ e.2.referencedTypes, t.PrimitivesInPlace :=
  h.forall_adopt (P := fun m => ∀ t ∈ m.referencedTypes, t.PrimitivesInPlace)
    (fun _ _ hm => by rwa [Model.referencedTypes_named])
    (fun m ρ hm => ρ.forall_types_model p m (fun _ ht => ht.renamed ρ) hm) hreg hpromoted

/-- The models that a resolver promotes have primitives in their places only. -/
theorem Resolver.primitivesInPlace_of_promoted {r : Resolver} {hp : r.profile.BoxesPrimitives}
    {promoted : List Model} (h : (r.boxingLaw hp).Promoted promoted) :
    ∀ m ∈ promoted, ∀ t ∈ m.referencedTypes, t.PrimitivesInPlace := by
  intro m hm
  obtain ⟨_, -, htypes⟩ := h.exists_model hm
  exact htypes

/-- Every step of the generation keeps primitives in their places. -/
def boxingLaw (c : Contract) {p : Profile} (hp : p.BoxesPrimitives) (flags : Flags) :
    GenerationLaw c p flags where
  registry reg := reg.Sound c.components.schemaNames ∧
    ∀ e ∈ reg.entries, ∀ t ∈ e.2.referencedTypes, t.PrimitivesInPlace
  model _ m := ∀ t ∈ m.referencedTypes, t.PrimitivesInPlace
  operation _ op := ∀ t ∈ op.types, t.PrimitivesInPlace
  initial := ⟨Registry.sound_initial _, by simp [Registry.initial]⟩
  model_mono _ h := h
  operation_mono _ h := h
  component _ hreg hrun := by
    obtain ⟨hm, hpromoted⟩ :=
      Resolver.Law.run_component ((c.resolver p flags).boxingLaw hp) hrun
    exact ⟨⟨hreg.1.adopt p _, hreg.1.primitivesInPlace_adopt hreg.2
        (Resolver.primitivesInPlace_of_promoted hpromoted)⟩,
      Renames.forall_types_model _ p _ (fun _ ht => ht.renamed _)
        (hm.holds (Resolver.primitivesInPlace_finish hp))⟩
  endpoint _ hreg hrun := by
    obtain ⟨hop, hpromoted⟩ :=
      Resolver.Law.run_operation ((c.resolver p flags).boxingLaw hp) hrun
    refine ⟨⟨hreg.1.adopt p _, hreg.1.primitivesInPlace_adopt hreg.2
      (Resolver.primitivesInPlace_of_promoted hpromoted)⟩, fun name => ?_⟩
    rw [ApiOperation.types_named]
    exact Renames.forall_types_operation _ p _ (fun _ ht => ht.renamed _) (hop.primitivesInPlace hp)

/-! ### The output -/

/-- All types of an output: those of its models and those of its operations. -/
def TargetModel.types (out : TargetModel) : List ResolvedType :=
  out.models.flatMap Model.referencedTypes ++ out.operations.flatMap ApiOperation.types

section Output

variable {c : Contract} {p : Profile} {flags : Flags} {out : TargetModel}

/-- In the output primitives are in their places. -/
theorem primitivesInPlace_of_generate (hp : p.BoxesPrimitives) (h : generate c p flags = .ok out) :
    ∀ t ∈ out.types, t.PrimitivesInPlace := by
  obtain ⟨_, -, htypes, -⟩ := (boxingLaw c hp flags).holds_read Model.referencedTypes
    ApiOperation.types (Q := fun _ t => t.PrimitivesInPlace) (fun _ _ => rfl)
    (fun _ hreg => hreg.2) (fun _ _ hm => hm) (fun _ _ hop => hop) h
  exact htypes

/-- In an output for JAX-RS no type that may be null is a primitive, at any depth, and neither is an
element of a container nor the payload of what is delivered later. -/
theorem boxed_of_generate (h : generate c .jaxrsSpec flags = .ok out) :
    ∀ t ∈ out.types, ∀ u ∈ t.nodes,
      (u.nullability = .nullable → u.target.primitive = false) ∧
        ∀ e ∈ u.kind.elements, e.target.primitive = false := by
  intro t ht u hu
  have hin := primitivesInPlace_of_generate Profile.jaxrsSpec_boxesPrimitives h t ht u hu
  exact ⟨hin.nullable, hin.elements⟩

end Output

/-! ### Numbers in all places -/

/-- A whole number. -/
def SchemaNode.integer : SchemaNode := .inline { type := some (.single .integer) }

/-- A contract with a named object of numbers, one of which must be present, and an operation that
answers a number. -/
def Contract.counting : Contract where
  version := "3.0.3"
  info := { title := "counting", version := "1" }
  components := { schemas := [("Tally", .inline
    { type := some (.single .object)
      properties :=
        [("total", .integer), ("limit", .integer),
         ("counts", .inline { type := some (.single .array), items := some .integer })]
      required := ["total"] })] }
  paths := [("/total", { operation? := fun
    | .get => some
        { operationId := some "count"
          responses := [("200", .inline
            { content := [("application/json", { schema := some .integer })] })] }
    | _ => none })]

/-- Only the number that must be present and the one that the contract answers stay primitives. -/
theorem boxed_of_counting : ∃ out,
    generate .counting .jaxrsSpec { supportAsync := true, interfaceOnly := true } = .ok out ∧
    out.types.map ResolvedType.name =
      ["int", "Integer", "List<Integer>", "CompletionStage<Integer>", "int"] ∧
    ∀ t ∈ out.types, ∀ u ∈ t.nodes,
      (u.nullability = .nullable → u.target.primitive = false) ∧
        ∀ e ∈ u.kind.elements, e.target.primitive = false := by
  have hrun : ∃ out,
      generate .counting .jaxrsSpec { supportAsync := true, interfaceOnly := true } = .ok out ∧
        out.types.map ResolvedType.name =
          ["int", "Integer", "List<Integer>", "CompletionStage<Integer>", "int"] :=
    exists_of_generate (by decide +kernel)
  obtain ⟨out, h, hnames⟩ := hrun
  exact ⟨out, h, hnames, boxed_of_generate h⟩

end ApiModel
