import ApiModel.Generation.ReturnShape
import ApiModel.Proofs.Generation.Renaming
import ApiModel.Proofs.Resolution.Collecting

/-!
# Rendered names follow structure

The rendered name of a type is made when the type is made, and is made again whenever the type is
changed: when a primitive becomes an object, when a container is built around a type, when a type
is wrapped to be delivered later, and when models are renamed. After each of these steps name and
target are what the structure of the type says.

Renaming and choosing the type that is returned in code can therefore be exchanged. Only what goes
by the name of its target becomes an object, and renaming changes neither; and the wrapper of a type
is found again by the target that it has given to the type.

## Main definitions

* `ResolvedType.FollowsKind`: name and target of a type are what its kind says.
* `ResolvedType.Structural`, `ResolvedType.Plain`: the same at any depth, and with nothing that is
  delivered later.
* `Profile.ObjectContainers`: containers are no primitives.
* `Resolver.renderingLaw`: the shapes of a resolver are plain.

## Main results

* `ResolvedType.FollowsKind.boxed`, `ResolvedType.FollowsKind.renamed`: what follows its kind does
  so as an object and under new names.
* `Renames.type_boxed`, `Renames.type_async`: renaming and boxing, and renaming and wrapping, can be
  exchanged.
* `Renames.type_returnType`: so can renaming and choosing what is returned in code.
* `Profile.structural_returnType`: what is returned in code is structural, and at most the whole of
  it is delivered later.
-/

namespace ApiModel

namespace TypeKind

variable {τ : Type}

/-- Whether a type of a kind is delivered later. -/
def isAsync : TypeKind τ → Bool
  | async _ => true
  | primitive | any | void | response | model _ | enum _ | union _ | array _ | map _ => false

/-- Whether a type of a kind goes by the name of its target. -/
def namedByTarget : TypeKind τ → Bool
  | primitive | any | void | response | enum _ | union _ => true
  | model _ | array _ | map _ | async _ => false

end TypeKind

/-- The name and the target of a type are what its kind says. -/
def ResolvedType.FollowsKind (p : Profile) (flags : Flags) (t : ResolvedType) : Prop :=
  match t.kind with
  | .model n => t.target = .named n ∧ t.name = n
  | .array u => t.target = p.array.target ∧ t.name = fill p.array.template u.name
  | .map u => t.target = p.map.target ∧ t.name = fill p.map.template u.name
  | .async u =>
    t.target = (p.wrapper flags).target ∧ t.name = fill (p.wrapper flags).template u.name
  | .primitive | .any | .void | .response | .enum _ | .union _ => t.name = t.target.name

/-- The names and the targets of a type and of all types that it holds are what their kinds say. -/
def ResolvedType.Structural (p : Profile) (flags : Flags) (t : ResolvedType) : Prop :=
  ∀ u ∈ t.nodes, u.FollowsKind p flags

/-- The names and the targets of a type and of all types that it holds are what their kinds say,
and none of them is delivered later. -/
def ResolvedType.Plain (p : Profile) (flags : Flags) (t : ResolvedType) : Prop :=
  ∀ u ∈ t.nodes, u.FollowsKind p flags ∧ u.kind.isAsync = false

/-! ### Profiles -/

namespace Profile

variable {p : Profile}

/-- Containers are no primitives. -/
structure ObjectContainers (p : Profile) : Prop where
  array : p.array.target.primitive = false
  map : p.map.target.primitive = false

theorem objectContainers_of_builtin {id : String} (h : builtin? id = some p) :
    p.ObjectContainers := by
  unfold builtin? at h
  split at h <;> cases h
  · exact ⟨rfl, rfl⟩
  · exact ⟨rfl, rfl⟩

/-- What the flags select is one of the two ways to wrap. -/
theorem wrapper_cases (p : Profile) (flags : Flags) :
    p.wrapper flags = p.asyncWrapper ∨ p.reactiveWrapper = some (p.wrapper flags) := by
  unfold wrapper
  split
  · rcases p.reactiveWrapper with _ | w
    · exact .inl rfl
    · exact .inr rfl
  · exact .inl rfl

/-- The wrapper that the flags select is found again by its target. -/
theorem DistinctWrappers.wrapperOf_wrapper (hp : p.DistinctWrappers) (flags : Flags) :
    Renames.wrapperOf p (p.wrapper flags).target = p.wrapper flags :=
  hp.wrapperOf_eq (p.wrapper_cases flags)

end Profile

/-! ### Making an object of a type -/

namespace ResolvedType

variable {p : Profile} {flags : Flags} {t : ResolvedType}

theorem plain_iff :
    t.Plain p flags ↔ (t.FollowsKind p flags ∧ t.kind.isAsync = false) ∧
      ∀ u ∈ t.kind.parts, u.Plain p flags :=
  forall_nodes_iff

theorem structural_iff :
    t.Structural p flags ↔ t.FollowsKind p flags ∧ ∀ u ∈ t.kind.parts, u.Structural p flags :=
  forall_nodes_iff

theorem Plain.structural (h : t.Plain p flags) : t.Structural p flags := fun u hu => (h u hu).1

theorem followsKind_iff (h : t.kind.namedByTarget = true) :
    t.FollowsKind p flags ↔ t.name = t.target.name := by
  unfold FollowsKind
  rcases hkind : t.kind with _ | _ | _ | _ | _ | _ | _ | _ | _ | _ <;>
    simp only [hkind, TypeKind.namedByTarget, Bool.false_eq_true] at h ⊢

/-- Models and containers are no primitives. -/
theorem FollowsKind.primitive_eq_false (hp : p.ObjectContainers) (h : t.FollowsKind p flags)
    (hasync : t.kind.isAsync = false) (hnamed : t.kind.namedByTarget = false) :
    t.target.primitive = false := by
  unfold FollowsKind at h
  rcases hkind : t.kind with _ | _ | _ | _ | n | _ | _ | u | u | u <;>
    simp only [hkind, TypeKind.isAsync, TypeKind.namedByTarget, Bool.true_eq_false]
      at h hasync hnamed
  · rw [h.1]
    rfl
  · rw [h.1, hp.array]
  · rw [h.1, hp.map]

/-- The object equivalent of what follows its kind does so as well. -/
theorem FollowsKind.boxed (hp : p.ObjectContainers) (h : t.FollowsKind p flags)
    (hasync : t.kind.isAsync = false) : t.boxed.FollowsKind p flags := by
  rcases hnamed : t.kind.namedByTarget with _ | _
  · rwa [boxed_eq_self (h.primitive_eq_false hp hasync hnamed)]
  · rw [followsKind_iff (by rw [kind_boxed]; exact hnamed)]
    unfold ResolvedType.boxed
    split
    · rfl
    · exact (followsKind_iff hnamed).mp h

theorem Plain.boxed (hp : p.ObjectContainers) (h : t.Plain p flags) : t.boxed.Plain p flags := by
  obtain ⟨⟨hfollows, hasync⟩, hparts⟩ := plain_iff.mp h
  refine plain_iff.mpr ⟨⟨hfollows.boxed hp hasync, ?_⟩, ?_⟩
  · rw [kind_boxed]
    exact hasync
  · rw [kind_boxed]
    exact hparts

/-- Whether a value may be null, and what it is by default, is no matter of structure. -/
theorem Plain.marked (h : t.Plain p flags) (nullability : Nullability)
    (defaultValue : Option DefaultValue) : Plain p flags { t with nullability, defaultValue } := by
  have hparts := plain_iff.mp h
  exact plain_iff.mpr hparts

end ResolvedType

/-! ### Making shapes -/

section Shapes

variable {p : Profile} {flags : Flags} {t : ResolvedType}

open ResolvedType

theorem plain_ofTarget {target : TargetType} {kind : TypeKind ResolvedType}
    (hnamed : kind.namedByTarget = true) (hasync : kind.isAsync = false)
    (hparts : ∀ u ∈ kind.parts, u.Plain p flags) : (ofTarget target kind).Plain p flags :=
  plain_iff.mpr ⟨⟨(followsKind_iff hnamed).mpr rfl, hasync⟩, hparts⟩

theorem plain_ofModel (n : String) : (ofModel n).Plain p flags :=
  plain_iff.mpr ⟨⟨⟨rfl, rfl⟩, rfl⟩, fun _ hu => absurd hu List.not_mem_nil⟩

theorem plain_elementRule_apply (hp : p.ObjectContainers) (ht : t.Plain p flags)
    (rule : ElementRule) : (rule.apply t).Plain p flags := by
  cases rule with
  | asIs => exact ht
  | boxed nullability => exact (ht.boxed hp).marked nullability _

/-- A container of plain elements is plain. -/
theorem plain_wrap (hp : p.ObjectContainers) (ht : t.Plain p flags) (layer : Layer) :
    (layer.wrap p t).Plain p flags := by
  cases layer with
  | array rule | map rule =>
    refine plain_iff.mpr ⟨⟨⟨rfl, rfl⟩, rfl⟩, fun u hu => ?_⟩
    obtain rfl := List.mem_singleton.mp hu
    exact plain_elementRule_apply hp ht rule

namespace Resolver

variable {r : Resolver}

theorem plain_any : r.any.Plain p flags :=
  plain_ofTarget rfl rfl fun _ hu => absurd hu List.not_mem_nil

/-- Its use leaves a shape plain. -/
theorem plain_finish (hp : p.ObjectContainers) (usage : Usage) (target : Schema)
    (shape : ResolvedType) (h : shape.Plain p flags) :
    (r.finish usage target shape).Plain p flags := by
  rw [finish]
  have hmarked := h.marked (usage.nullability target) shape.defaultValue
  split
  · exact (hmarked.boxed hp).marked _ _
  · exact hmarked.marked _ _

/-- The shapes of a resolver are plain. -/
def renderingLaw (r : Resolver) (hp : r.profile.ObjectContainers) (flags : Flags) : r.Law where
  type _ t := t.Plain r.profile flags
  model _ m := ∀ t ∈ m.referencedTypes, t.Plain r.profile flags
  type_mono _ ht := ht
  any _ := plain_any
  named _ := plain_ofModel _
  promoted _ := plain_ofModel _
  enum _ := plain_ofTarget rfl rfl fun _ hu => absurd hu List.not_mem_nil
  primitive h := by
    rw [Profile.primitive] at h
    split at h <;> cases h
    exact plain_ofTarget rfl rfl fun _ hu => absurd hu List.not_mem_nil
  union hu := plain_ofTarget rfl rfl hu.members
  array _ ht := plain_wrap hp ht _
  map _ ht := plain_wrap hp ht _
  arrayOfAny _ := plain_wrap hp plain_any _
  mapOfAny _ := plain_wrap hp plain_any _
  built hm := hm.holds (plain_finish hp)

end Resolver

end Shapes

/-! ### Renaming -/

namespace Renames

variable {p : Profile} {flags : Flags} (ρ : Renames) {t : ResolvedType}

/-- The nodes of a renamed type are the renamed nodes of the type. -/
theorem nodes_type (t : ResolvedType) : (ρ.type p t).nodes = t.nodes.map (ρ.type p) := by
  induction t using ResolvedType.induction with
  | step t ih =>
    rw [ResolvedType.nodes_eq, ResolvedType.nodes_eq t, kind_type, parts_kind, List.flatMap_map,
      List.map_cons, List.map_flatMap]
    congr 1
    exact List.flatMap_congr ih

/-- What every node keeps under new names holds of the nodes of the renamed type. -/
theorem forall_nodes_type {P : ResolvedType → Prop} (hP : ∀ u, P u → P (ρ.type p u))
    (h : ∀ u ∈ t.nodes, P u) : ∀ u ∈ (ρ.type p t).nodes, P u := by
  intro u hu
  rw [nodes_type] at hu
  obtain ⟨v, hv, rfl⟩ := List.mem_map.mp hu
  exact hP v (h v hv)

theorem isAsync_kind (k : TypeKind ResolvedType) : (ρ.kind p k).isAsync = k.isAsync := by
  cases k <;> rfl

theorem namedByTarget_kind (k : TypeKind ResolvedType) :
    (ρ.kind p k).namedByTarget = k.namedByTarget := by
  cases k <;> rfl

/-- Of a type that goes by the name of its target only the kind changes. -/
theorem type_eq_of_namedByTarget (h : t.kind.namedByTarget = true) :
    ρ.type p t = { t with kind := ρ.kind p t.kind } := by
  obtain ⟨name, target, kind, nullability, default⟩ := t
  cases kind with
  | model | array | map | async => cases h
  | _ => simp only [type, Renames.kind]

end Renames

namespace ResolvedType

variable {p : Profile} {flags : Flags} {t : ResolvedType}

/-- What follows its kind does so under new names. -/
theorem FollowsKind.renamed (hp : p.DistinctWrappers) (h : t.FollowsKind p flags) (ρ : Renames) :
    (ρ.type p t).FollowsKind p flags := by
  rcases hnamed : t.kind.namedByTarget with _ | _
  · obtain ⟨name, target, kind, nullability, default⟩ := t
    cases kind with
    | model n =>
      obtain ⟨rfl, hname⟩ := h
      obtain rfl : name = n := hname
      simp only [Renames.type]
      cases ρ.lookup name with
      | none => exact ⟨rfl, rfl⟩
      | some new => exact ⟨rfl, rfl⟩
    | array u | map u =>
      obtain ⟨rfl, rfl⟩ := h
      simp only [Renames.type]
      exact ⟨rfl, rfl⟩
    | async u =>
      -- the template is that of the wrapper which the target leads to
      obtain ⟨rfl, rfl⟩ := h
      simp only [Renames.type, hp.wrapperOf_wrapper]
      exact ⟨rfl, rfl⟩
    | _ => cases hnamed
  · have hname : t.name = t.target.name := (followsKind_iff hnamed).mp h
    rw [ρ.type_eq_of_namedByTarget hnamed]
    exact (followsKind_iff ((ρ.namedByTarget_kind t.kind).trans hnamed)).mpr hname

theorem Plain.renamed (hp : p.DistinctWrappers) (h : t.Plain p flags) (ρ : Renames) :
    (ρ.type p t).Plain p flags := by
  refine ρ.forall_nodes_type (fun u hu => ?_) h
  obtain ⟨hfollows, hasync⟩ := hu
  refine ⟨hfollows.renamed hp ρ, ?_⟩
  rw [ρ.kind_type, ρ.isAsync_kind]
  exact hasync

end ResolvedType

/-! ### Renaming what is returned in code -/

section ReturnType

variable {p : Profile} {flags : Flags} {t : ResolvedType} {response : ResponseType}

/-- The type of a response, if there is one, is plain. -/
def ResponseType.Plain (p : Profile) (flags : Flags) : ResponseType → Prop
  | content t => t.Plain p flags
  | noContent => True

namespace Renames

variable (ρ : Renames)

/-- Renaming and making an object can be exchanged. -/
theorem type_boxed (hp : p.ObjectContainers) (hp' : p.DistinctWrappers)
    (h : t.FollowsKind p flags) (hasync : t.kind.isAsync = false) :
    ρ.type p t.boxed = (ρ.type p t).boxed := by
  rcases hnamed : t.kind.namedByTarget with _ | _
  · -- neither the type nor the renamed type is a primitive
    have hrenamed : (ρ.type p t).target.primitive = false := by
      refine (h.renamed hp' ρ).primitive_eq_false hp ?_ ?_
      · rw [ρ.kind_type, ρ.isAsync_kind]
        exact hasync
      · rw [ρ.kind_type, ρ.namedByTarget_kind]
        exact hnamed
    rw [ResolvedType.boxed_eq_self (h.primitive_eq_false hp hasync hnamed),
      ResolvedType.boxed_eq_self hrenamed]
  · rw [ρ.type_eq_of_namedByTarget hnamed,
      ρ.type_eq_of_namedByTarget (by rw [ResolvedType.kind_boxed]; exact hnamed),
      ResolvedType.kind_boxed]
    obtain ⟨name, ⟨_, _, _ | _, _ | _⟩, kind, nullability, default⟩ := t <;> rfl

/-- Renaming and wrapping can be exchanged. -/
theorem type_async (hp : p.DistinctWrappers) (flags : Flags) (payload : ResolvedType) :
    ρ.type p (p.async flags payload) = p.async flags (ρ.type p payload) := by
  simp only [Profile.async, type, hp.wrapperOf_wrapper]

theorem type_ofTarget {target : TargetType} {kind : TypeKind ResolvedType}
    (h : kind.namedByTarget = true) :
    ρ.type p (.ofTarget target kind) = .ofTarget target (ρ.kind p kind) :=
  ρ.type_eq_of_namedByTarget h

theorem type_responseType :
    ρ.type p (p.responseType response) = p.responseType (ρ.response p response) := by
  cases response with
  | content t => rfl
  | noContent => exact ρ.type_ofTarget rfl

end Renames

namespace Profile

/-- What is returned in code, before it is wrapped to be delivered later. -/
def payload (p : Profile) (response : ResponseType) (flags : Flags) : ResolvedType :=
  if p.wrapsResponse flags then .ofTarget p.response .response else p.responseType response

theorem returnType_eq (p : Profile) (response : ResponseType) (flags : Flags) :
    (p.returnShape response flags).returnType =
      if flags.supportAsync then p.async flags (p.asyncPayload (p.payload response flags))
      else p.payload response flags := rfl

theorem plain_payload (h : response.Plain p flags) : (p.payload response flags).Plain p flags := by
  unfold payload
  split
  · exact plain_ofTarget rfl rfl fun _ hu => absurd hu List.not_mem_nil
  · cases response with
    | content t => exact h
    | noContent => exact plain_ofTarget rfl rfl fun _ hu => absurd hu List.not_mem_nil

theorem plain_asyncPayload (hp : p.ObjectContainers) (h : t.Plain p flags) :
    (p.asyncPayload t).Plain p flags := by
  unfold asyncPayload
  split
  · exact h.boxed hp
  · exact h

/-- What is returned in code is structural, and at most the whole of it is delivered later. -/
theorem structural_returnType (hp : p.ObjectContainers) (h : response.Plain p flags) :
    (p.returnShape response flags).returnType.Structural p flags ∧
      ∀ u ∈ (p.returnShape response flags).returnType.kind.parts, u.Plain p flags := by
  have hpayload := plain_payload h
  rw [returnType_eq]
  split
  · have hparts : ∀ u ∈ (p.async flags (p.asyncPayload (p.payload response flags))).kind.parts,
        u.Plain p flags := by
      intro u hu
      obtain rfl := List.mem_singleton.mp hu
      exact plain_asyncPayload hp hpayload
    exact ⟨ResolvedType.structural_iff.mpr ⟨⟨rfl, rfl⟩, fun u hu => (hparts u hu).structural⟩,
      hparts⟩
  · exact ⟨hpayload.structural, (ResolvedType.plain_iff.mp hpayload).2⟩

end Profile

namespace Renames

variable (ρ : Renames)

theorem type_payload :
    ρ.type p (p.payload response flags) = p.payload (ρ.response p response) flags := by
  unfold Profile.payload
  split
  · exact ρ.type_ofTarget rfl
  · exact ρ.type_responseType

theorem type_asyncPayload (hp : p.ObjectContainers) (hp' : p.DistinctWrappers)
    (h : t.Plain p flags) : ρ.type p (p.asyncPayload t) = p.asyncPayload (ρ.type p t) := by
  obtain ⟨⟨hfollows, hasync⟩, -⟩ := ResolvedType.plain_iff.mp h
  unfold Profile.asyncPayload
  split
  · exact ρ.type_boxed hp hp' hfollows hasync
  · rfl

/-- Renaming and choosing what is returned in code can be exchanged. -/
theorem type_returnType (hp : p.ObjectContainers) (hp' : p.DistinctWrappers)
    (h : response.Plain p flags) : ρ.type p (p.returnShape response flags).returnType =
      (p.returnShape (ρ.response p response) flags).returnType := by
  rw [Profile.returnType_eq, Profile.returnType_eq, ← ρ.type_payload]
  split
  · rw [ρ.type_async hp', ρ.type_asyncPayload hp hp' (Profile.plain_payload h)]
  · rfl

end Renames

end ReturnType

end ApiModel
