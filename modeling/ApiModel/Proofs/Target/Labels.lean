import ApiModel.Proofs.Target.Nodes

/-!
# Types by the labels of their nodes

The position of a node in a type is the way to it: which part to enter, one part after the other.
The label of a node is what it says itself, apart from its rendered name and from the types that it
holds. A label may get other models in place of those that it names; whatever is done to models at
every node of a type is then said position by position.

## Main definitions

* `TypeKind.bimap`: a kind with other models, and with other types inside.
* `ResolvedType.nodeAt?`: the node at a position.
* `ResolvedType.Label`, `ResolvedType.labelAt`: what the node at a position says itself.
* `ResolvedType.Label.renamed`: a label with other models.

## Main results

* `ResolvedType.Label.renamed_renamed`: other models, and others for these, are others at once.
* `ResolvedType.map_renamed_labelAt_congr`: only the models that a type mentions matter.
* `ResolvedType.eq_of_labelAt_eq`: types whose rendered names are given by everything else are known
  by their labels.
-/

namespace ApiModel

/-- A discriminator with other targets. -/
def Discriminator.mapTargets (f : String → String) (d : Discriminator) : Discriminator :=
  { d with mapping := d.mapping.map fun (value, target) => (value, f target) }

namespace Discriminator

theorem mapTargets_id : mapTargets id = id := by
  funext d
  exact congrArg (mk d.propertyName) (List.map_id _)

theorem mapTargets_congr {f g : String → String} {d : Discriminator}
    (h : ∀ n ∈ d.mapping.map Prod.snd, f n = g n) : d.mapTargets f = d.mapTargets g := by
  rw [mapTargets, mapTargets]
  congr 1
  refine List.map_congr_left fun e he => ?_
  dsimp only
  rw [h e.2 (List.mem_map_of_mem he)]

end Discriminator

/-! ### Kinds -/

namespace TypeKind

variable {α β γ : Type}

/-- A kind with other models, and with other types inside. -/
def bimap (f : String → String) (g : α → β) : TypeKind α → TypeKind β
  | primitive => primitive
  | any => any
  | void => void
  | response => response
  | model n => model (f n)
  | enum e => enum e
  | union u => union ⟨u.members.map g, u.discriminator.map (Discriminator.mapTargets f)⟩
  | array t => array (g t)
  | map t => map (g t)
  | async t => async (g t)

/-- What a kind says itself: which types are inside is left out, but not how many. -/
def head (k : TypeKind α) : TypeKind Unit := k.bimap id fun _ => ()

theorem bimap_bimap (f f' : String → String) (g : α → β) (g' : β → γ) (k : TypeKind α) :
    (k.bimap f g).bimap f' g' = k.bimap (f' ∘ f) (g' ∘ g) := by
  cases k with
  | union u =>
    obtain ⟨members, _ | d⟩ := u <;> simp [bimap, Discriminator.mapTargets, Function.comp_def]
  | _ => rfl

theorem bimap_congr {f f' : String → String} {k : TypeKind α}
    (h : ∀ n ∈ k.modelName ++ k.discriminatorTargets, f n = f' n) (g : α → β) :
    k.bimap f g = k.bimap f' g := by
  cases k with
  | model n => rw [bimap, bimap, h n (by simp [modelName])]
  | union u =>
    obtain ⟨members, _ | d⟩ := u
    · rfl
    · rw [bimap, bimap, Option.map_some, Option.map_some, Discriminator.mapTargets_congr h]
  | _ => rfl

section Bimap

variable (f : String → String) (g : α → β) (k : TypeKind α)

@[simp] theorem parts_bimap : (k.bimap f g).parts = k.parts.map g := by
  cases k <;> rfl

@[simp] theorem modelName_bimap : (k.bimap f g).modelName = k.modelName.map f := by
  cases k <;> rfl

@[simp] theorem discriminatorTargets_bimap :
    (k.bimap f g).discriminatorTargets = k.discriminatorTargets.map f := by
  cases k with
  | union u =>
    obtain ⟨members, _ | d⟩ := u <;>
      simp [bimap, discriminatorTargets, Discriminator.mapTargets, Function.comp_def]
  | _ => rfl

end Bimap

theorem names_head (k : TypeKind α) : k.head.modelName ++ k.head.discriminatorTargets =
    k.modelName ++ k.discriminatorTargets := by
  rw [head, modelName_bimap, discriminatorTargets_bimap, List.map_id, List.map_id]

theorem length_parts_of_head_eq {k l : TypeKind α} (h : k.head = l.head) :
    k.parts.length = l.parts.length := by
  have hlength := congrArg (fun head => head.parts.length) h
  simpa [head] using hlength

/-- A kind is what it says itself together with the types inside. -/
theorem eq_of_head_eq {k l : TypeKind α} (hhead : k.head = l.head) (hparts : k.parts = l.parts) :
    k = l := by
  cases k <;> cases l <;> simp only [head, bimap, reduceCtorEq] at hhead
  case model.model | enum.enum =>
    cases hhead
    rfl
  case array.array | map.map | async.async =>
    cases hparts
    rfl
  case union.union u v =>
    obtain ⟨members, d⟩ := u
    obtain ⟨members', e⟩ := v
    obtain rfl : members = members' := hparts
    simp only [Discriminator.mapTargets_id, Option.map_id_apply, union.injEq,
      UnionType.mk.injEq] at hhead
    rw [hhead.2]
  all_goals rfl

end TypeKind

namespace ResolvedType

/-! ### Positions -/

/-- The node at a position, if the position is inside the type. -/
def nodeAt? (t : ResolvedType) : List Nat → Option ResolvedType
  | [] => some t
  | i :: position => t.kind.parts[i]?.bind fun u => u.nodeAt? position

@[simp] theorem nodeAt?_nil (t : ResolvedType) : t.nodeAt? [] = some t := rfl

@[simp] theorem nodeAt?_cons (t : ResolvedType) (i : Nat) (position : List Nat) :
    t.nodeAt? (i :: position) = t.kind.parts[i]?.bind fun u => u.nodeAt? position := rfl

/-- The node at a position is one of the nodes of the type. -/
theorem mem_nodes_of_nodeAt? {t u : ResolvedType} {position : List Nat}
    (h : t.nodeAt? position = some u) : u ∈ t.nodes := by
  induction position generalizing t with
  | nil =>
    cases h
    rw [nodes_eq]
    exact List.mem_cons_self
  | cons i rest ih =>
    obtain ⟨v, hv, hu⟩ := Option.bind_eq_some_iff.mp h
    rw [nodes_eq]
    exact List.mem_cons_of_mem _ (List.mem_flatMap.mpr ⟨v, List.mem_of_getElem? hv, ih hu⟩)

/-! ### Labels -/

/-- What a type says itself, apart from its rendered name. -/
structure Label where
  /-- What it is, without the types inside. -/
  head : TypeKind Unit
  /-- The outermost type of the platform. -/
  target : TargetType
  /-- Whether a value may be null. -/
  nullability : Nullability
  /-- The default. -/
  defaultValue : Option DefaultValue

/-- The label of a type. -/
def label (t : ResolvedType) : Label := ⟨t.kind.head, t.target, t.nullability, t.defaultValue⟩

/-- The label of the node at a position. -/
def labelAt (t : ResolvedType) (position : List Nat) : Option Label :=
  (t.nodeAt? position).map label

/-- A label with other models: in place of the one that it refers to, which is also the name on the
platform, and in place of the targets of its discriminator. Everything else stays. -/
def Label.renamed (f : String → String) (l : Label) : Label :=
  { l with
    head := l.head.bimap f id
    target :=
      match l.head with
      | .model n => { l.target with name := f n }
      | _ => l.target }

theorem Label.renamed_renamed (f g : String → String) (l : Label) :
    (l.renamed f).renamed g = l.renamed (g ∘ f) := by
  obtain ⟨head, target, nullability, defaultValue⟩ := l
  simp only [renamed, TypeKind.bimap_bimap]
  cases head <;> rfl

theorem Label.renamed_congr {f g : String → String} {l : Label}
    (h : ∀ n ∈ l.head.modelName ++ l.head.discriminatorTargets, f n = g n) :
    l.renamed f = l.renamed g := by
  obtain ⟨head, target, nullability, defaultValue⟩ := l
  simp only [renamed, TypeKind.bimap_congr h]
  cases head with
  | model n => simp only [h n (by simp [TypeKind.modelName])]
  | _ => rfl

section Positions

variable {t u : ResolvedType}

@[simp] theorem labelAt_nil (t : ResolvedType) : t.labelAt [] = some t.label := rfl

@[simp] theorem labelAt_cons (t : ResolvedType) (i : Nat) (position : List Nat) :
    t.labelAt (i :: position) = t.kind.parts[i]?.bind fun u => u.labelAt position :=
  Option.map_bind

/-- The labels of a type get the same models where those that the type mentions become the same. -/
theorem map_renamed_labelAt_congr {f g : String → String} (h : ∀ n ∈ t.mentions, f n = g n)
    (position : List Nat) :
    (t.labelAt position).map (Label.renamed f) = (t.labelAt position).map (Label.renamed g) := by
  rw [labelAt, Option.map_map, Option.map_map]
  refine Option.map_congr fun u hu => Label.renamed_congr fun n hn => h n ?_
  rw [label, TypeKind.names_head] at hn
  exact List.mem_flatMap.mpr ⟨u, mem_nodes_of_nodeAt? hu, hn⟩

/-- Types whose names are given by everything else are known by their labels. -/
theorem eq_of_labelAt_eq {P : ResolvedType → Prop}
    (hname : ∀ t u, P t → P u → t.kind = u.kind → t.target = u.target → t.name = u.name)
    (ht : ∀ v ∈ t.nodes, P v) (hu : ∀ v ∈ u.nodes, P v)
    (h : ∀ position, t.labelAt position = u.labelAt position) : t = u := by
  induction t using ResolvedType.induction generalizing u with
  | step t ih =>
    obtain ⟨ht, htparts⟩ := forall_nodes_iff.mp ht
    obtain ⟨hu, huparts⟩ := forall_nodes_iff.mp hu
    have hlabel : t.label = u.label := Option.some.inj (h [])
    have hhead : t.kind.head = u.kind.head := congrArg Label.head hlabel
    have hparts : t.kind.parts = u.kind.parts := by
      refine List.ext_getElem (TypeKind.length_parts_of_head_eq hhead) fun i hi hi' => ?_
      have hpart := List.getElem_mem hi
      refine ih _ hpart (htparts _ hpart) (huparts _ (List.getElem_mem hi')) fun position => ?_
      simpa [hi, hi'] using h (i :: position)
    have hkind : t.kind = u.kind := TypeKind.eq_of_head_eq hhead hparts
    have htarget : t.target = u.target := congrArg Label.target hlabel
    have hnullability : t.nullability = u.nullability := congrArg Label.nullability hlabel
    have hdefault : t.defaultValue = u.defaultValue := congrArg Label.defaultValue hlabel
    have hnames : t.name = u.name := hname t u ht hu hkind htarget
    obtain ⟨⟩ := t
    obtain ⟨⟩ := u
    simp only [mk.injEq]
    exact ⟨hnames, htarget, hkind, hnullability, hdefault⟩

end Positions

end ResolvedType

end ApiModel
