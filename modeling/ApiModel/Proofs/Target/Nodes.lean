import ApiModel.Target.Operation

/-!
# The types that stand in a type

A type of a target platform may hold further types: the element of a container, the payload of
a wrapper, the members of a union. Its *nodes* are the type itself and the nodes of all types
that it holds. Whatever is to be said about a type at any depth is said about its nodes.

## Main definitions

* `TypeKind.parts`, `ResolvedType.nodes`: the types that a type holds, directly and at any depth.
* `ResolvedType.collect`: what the kinds of the nodes yield.
* `ResolvedType.references`, `ResolvedType.mentions`, `ResolvedType.enums`, `ResolvedType.targets`:
  the models that a type refers to, the same together with the targets of discriminators, its enums,
  and these targets alone.
* `ApiOperation.types`, `ApiOperation.exchangedTypes`: the types of an operation, and those of them
  whose values it exchanges.
* `Model.references`, `Model.mentions`, `Model.enums`, `Model.targets`, `ApiOperation.references`,
  `ApiOperation.enums`, `ApiOperation.targets`, `TargetModel.references`, `TargetModel.enums`,
  `TargetModel.targets`: the same for what holds types.

## Main results

* `ResolvedType.induction`: induction over the types that a type holds.
* `ResolvedType.collect_eq`: a type yields what its kind yields and what its parts yield.
-/

namespace ApiModel

/-- The types that a type of a kind holds directly. -/
def TypeKind.parts {τ : Type} : TypeKind τ → List τ
  | array t | map t | async t => [t]
  | union u => u.members
  | primitive | any | void | response | model _ | enum _ => []

mutual

/-- The type itself and the nodes of the types that it holds. -/
def ResolvedType.nodes : ResolvedType → List ResolvedType
  | ⟨name, target, kind, nullability, default⟩ =>
    ⟨name, target, kind, nullability, default⟩ :: nodesOfKind kind

/-- The nodes of the types that a type of a kind holds. -/
def nodesOfKind : TypeKind ResolvedType → List ResolvedType
  | .array t | .map t | .async t => t.nodes
  | .union ⟨members, _⟩ => nodesOfMembers members
  | .primitive | .any | .void | .response | .model _ | .enum _ => []

/-- The nodes of several types. -/
def nodesOfMembers : List ResolvedType → List ResolvedType
  | [] => []
  | t :: rest => t.nodes ++ nodesOfMembers rest

end

theorem nodesOfMembers_eq (ts : List ResolvedType) :
    nodesOfMembers ts = ts.flatMap ResolvedType.nodes := by
  induction ts with
  | nil => rfl
  | cons t rest ih => simp [nodesOfMembers, ih]

namespace ResolvedType

theorem nodes_eq (t : ResolvedType) : t.nodes = t :: t.kind.parts.flatMap nodes := by
  obtain ⟨name, target, kind, nullability, default⟩ := t
  cases kind <;> simp [nodes, nodesOfKind, nodesOfMembers_eq, TypeKind.parts]

/-- What holds of all nodes of a type holds of the type, and of all nodes of the types that it
holds. -/
theorem forall_nodes_iff {P : ResolvedType → Prop} {t : ResolvedType} :
    (∀ u ∈ t.nodes, P u) ↔ P t ∧ ∀ u ∈ t.kind.parts, ∀ v ∈ u.nodes, P v := by
  simp only [nodes_eq t, List.forall_mem_cons, List.forall_mem_flatMap]

theorem sizeOf_lt_of_mem_parts {t u : ResolvedType} (h : u ∈ t.kind.parts) :
    sizeOf u < sizeOf t := by
  obtain ⟨name, target, kind, nullability, default⟩ := t
  cases kind with
  | array e | map e | async e =>
    obtain rfl : u = e := by simpa [TypeKind.parts] using h
    simp only [mk.sizeOf_spec, TypeKind.array.sizeOf_spec, TypeKind.map.sizeOf_spec,
      TypeKind.async.sizeOf_spec]
    omega
  | union v =>
    obtain ⟨members, d⟩ := v
    have hu : u ∈ members := h
    have := List.sizeOf_lt_of_mem hu
    simp only [mk.sizeOf_spec, TypeKind.union.sizeOf_spec, UnionType.mk.sizeOf_spec]
    omega
  | _ => simp [TypeKind.parts] at h

/-- Induction over the types that a type holds. -/
@[elab_as_elim]
theorem induction {motive : ResolvedType → Prop}
    (step : ∀ t, (∀ u ∈ t.kind.parts, motive u) → motive t) (t : ResolvedType) : motive t :=
  step t fun u _ => induction step u
termination_by t
decreasing_by exact sizeOf_lt_of_mem_parts ‹_›

/-! ### What the nodes yield -/

/-- What the kinds of the nodes of a type yield. -/
def collect {α : Type} (f : TypeKind ResolvedType → List α) (t : ResolvedType) : List α :=
  t.nodes.flatMap fun u => f u.kind

section Collect

variable {α : Type} (f : TypeKind ResolvedType → List α)

/-- A type yields what its kind yields and what the types in it yield. -/
theorem collect_eq (t : ResolvedType) :
    t.collect f = f t.kind ++ t.kind.parts.flatMap (collect f) := by
  have h : collect f = fun u => u.nodes.flatMap fun v => f v.kind := rfl
  rw [collect, nodes_eq, List.flatMap_cons, h, ← List.flatMap_assoc]

/-- What a type yields hangs on its kind alone. -/
theorem collect_congr {t u : ResolvedType} (h : t.kind = u.kind) :
    t.collect f = u.collect f := by
  rw [collect_eq, collect_eq, h]

@[simp] theorem collect_ofTarget (target : TargetType) (kind : TypeKind ResolvedType) :
    (ofTarget target kind).collect f = f kind ++ kind.parts.flatMap (collect f) :=
  collect_eq f _

@[simp] theorem collect_boxed (t : ResolvedType) : t.boxed.collect f = t.collect f :=
  collect_congr f t.kind_boxed

end Collect

end ResolvedType

namespace TypeKind

variable {τ : Type}

/-- The model that a kind refers to. -/
def modelName : TypeKind τ → List String
  | model name => [name]
  | _ => []

/-- The targets of the discriminator of a kind. -/
def discriminatorTargets : TypeKind τ → List String
  | union ⟨_, some d⟩ => d.mapping.map Prod.snd
  | _ => []

/-- The enum that a kind is. -/
def enumType : TypeKind τ → List EnumType
  | enum e => [e]
  | _ => []

end TypeKind

namespace ResolvedType

/-- The models that a type refers to, at any depth. -/
def references (t : ResolvedType) : List String := t.collect TypeKind.modelName

/-- The models that a type refers to and the targets of its discriminators, at any depth. -/
def mentions (t : ResolvedType) : List String :=
  t.collect fun kind => kind.modelName ++ kind.discriminatorTargets

/-- The enums of a type, at any depth. -/
def enums (t : ResolvedType) : List EnumType := t.collect TypeKind.enumType

/-- The targets of the discriminators of a type, at any depth. -/
def targets (t : ResolvedType) : List String := t.collect TypeKind.discriminatorTargets

end ResolvedType

/-! ### What holds types -/

/-- The targets of a discriminator, if there is one. -/
def discriminatorTargets (d : Option Discriminator) : List String :=
  d.toList.flatMap fun d => d.mapping.map Prod.snd

namespace ModelShape

/-- The discriminator of a shape. -/
def discriminator? : ModelShape → Option Discriminator
  | union u => u.discriminator
  | object | enum _ | synonym _ => none

/-- The enum that a shape is. -/
def enumType : ModelShape → List EnumType
  | enum e => [e]
  | object | union _ | synonym _ => []

end ModelShape

namespace Model

/-- The models that the types and the parent of a model refer to. -/
def references (m : Model) : List String :=
  m.referencedTypes.flatMap ResolvedType.references ++ m.parent.toList

/-- The models that a model refers to, and the targets of its discriminators. -/
def mentions (m : Model) : List String :=
  m.referencedTypes.flatMap ResolvedType.mentions ++ discriminatorTargets m.shape.discriminator? ++
    discriminatorTargets m.discriminator ++ m.parent.toList

/-- The targets of the discriminators of a model: of those in its types, of the one of its union,
and of its own. -/
def targets (m : Model) : List String :=
  m.referencedTypes.flatMap ResolvedType.targets ++ discriminatorTargets m.shape.discriminator? ++
    discriminatorTargets m.discriminator

/-- The enums of a model, at any depth. -/
def enums (m : Model) : List EnumType :=
  m.shape.enumType ++ m.referencedTypes.flatMap ResolvedType.enums

end Model

namespace ApiOperation

/-- The types of an operation: those of its parameters, its body, its response and its
signature. -/
def types (op : ApiOperation) : List ResolvedType :=
  op.referencedTypes ++
    match op.response with
    | .content type => [type]
    | .noContent => []

/-- The types whose values an operation exchanges: those of its parameters, its body and its
response. -/
def exchangedTypes (op : ApiOperation) : List ResolvedType :=
  op.parameters.map ApiParameter.type ++ op.requestBody.toList.map ApiBody.type ++
    match op.response with
    | .content type => [type]
    | .noContent => []

/-- The types of an operation are those that it exchanges and the one that it returns in code. -/
theorem mem_types {op : ApiOperation} {t : ResolvedType} :
    t ∈ op.types ↔ t ∈ op.exchangedTypes ∨ t = op.shape.returnType := by
  simp only [types, referencedTypes, exchangedTypes, List.mem_append, List.mem_singleton]
  exact or_right_comm

theorem mem_exchangedTypes_of_response {op : ApiOperation} {t : ResolvedType}
    (h : op.response = .content t) : t ∈ op.exchangedTypes := by
  refine List.mem_append_right _ ?_
  rw [h]
  exact List.mem_singleton.mpr rfl

/-- The models that an operation refers to, at any depth. -/
def references (op : ApiOperation) : List String := op.types.flatMap ResolvedType.references

/-- The targets of the discriminators in an operation, at any depth. -/
def targets (op : ApiOperation) : List String := op.types.flatMap ResolvedType.targets

/-- The enums of an operation, at any depth. -/
def enums (op : ApiOperation) : List EnumType := op.types.flatMap ResolvedType.enums

end ApiOperation

namespace TargetModel

variable (m : TargetModel)

/-- The operations of all groups. -/
def operations : List ApiOperation := m.groups.flatMap ApiGroup.operations

/-- The models that anything in the output refers to. -/
def references : List String :=
  m.models.flatMap Model.references ++ m.operations.flatMap ApiOperation.references

/-- The targets of all discriminators in the output. -/
def targets : List String :=
  m.models.flatMap Model.targets ++ m.operations.flatMap ApiOperation.targets

/-- The enums anywhere in the output. -/
def enums : List EnumType :=
  m.models.flatMap Model.enums ++ m.operations.flatMap ApiOperation.enums

end TargetModel

end ApiModel
