import ApiModel.Proofs.Generation.Rendering

/-!
# Renaming is simultaneous substitution

The rendered names of a type are well made if each of them is what the kind of its node says. Such a
type is known by its labels, and renaming gives every label other models, each of them once. So
renaming obeys the laws of a substitution: it changes nothing where nothing has a new name, and to
rename twice is to rename once.

## Main definitions

* `ResolvedType.NamedByKind`, `ResolvedType.WellNamed`: rendered names are what the kinds say.
* `Renames.andThen`: new names, and then others.

## Main results

* `ResolvedType.WellNamed.eq_of_labelAt_eq`: a type with such names is known by its labels.
* `ResolvedType.WellNamed.renamed`: under new names it has such names again.
* `Renames.labelAt_type`: the labels of a renamed type.
* `Renames.type_type`, `Renames.type_eq_self`: renaming twice, and renaming nothing.
* `Renames.simultaneous_type`: renaming is simultaneous substitution.
-/

namespace ApiModel

/-! ### Names that are given by kinds -/

/-- The rendered name of a type is what its kind says: the name of the model, what the templates of
a profile make of the name inside, or the name of its target. -/
def ResolvedType.NamedByKind (p : Profile) (t : ResolvedType) : Prop :=
  match t.kind with
  | .model n => t.target.name = n ∧ t.name = n
  | .array _ | .map _ | .async _ => t.NamedByParts p
  | .primitive | .any | .void | .response | .enum _ | .union _ => t.name = t.target.name

/-- The rendered names of a type and of all types that it holds are what their kinds say. -/
def ResolvedType.WellNamed (p : Profile) (t : ResolvedType) : Prop :=
  ∀ u ∈ t.nodes, u.NamedByKind p

namespace ResolvedType

variable {p : Profile} {flags : Flags} {t u : ResolvedType}

/-- What follows its kind is named by it. -/
theorem FollowsKind.namedByKind (h : t.FollowsKind p flags) : t.NamedByKind p := by
  obtain ⟨name, target, kind, nullability, default⟩ := t
  cases kind with
  | model n =>
    obtain ⟨rfl, hname⟩ := h
    exact ⟨rfl, hname⟩
  | array u | map u => exact h.2
  | async u => exact ⟨_, p.wrapper_cases flags, h⟩
  | _ => exact h

theorem Structural.wellNamed (h : t.Structural p flags) : t.WellNamed p :=
  fun u hu => (h u hu).namedByKind

/-- Well-made names are rendered by the templates. -/
theorem WellNamed.rendered (h : t.WellNamed p) : t.Rendered p := by
  intro u hu
  have hu := h u hu
  obtain ⟨name, target, kind, nullability, default⟩ := u
  cases kind with
  | array v | map v | async v => exact hu
  | _ => trivial

/-- The name that a kind gives follows from the kind and the target. -/
theorem NamedByKind.name_eq (hp : p.DistinctWrappers) (ht : t.NamedByKind p)
    (hu : u.NamedByKind p) (hkind : t.kind = u.kind) (htarget : t.target = u.target) :
    t.name = u.name := by
  obtain ⟨name, target, kind, nullability, default⟩ := t
  obtain ⟨name', target', kind', nullability', default'⟩ := u
  obtain rfl : kind = kind' := hkind
  obtain rfl : target = target' := htarget
  cases kind with
  | model n => exact ht.2.trans hu.2.symm
  | array v | map v => exact Eq.trans ht (Eq.symm hu)
  | async v =>
    -- the wrapper is found again by the target
    obtain ⟨w, hw, rfl, hname⟩ := ht
    obtain ⟨w', hw', heq, hname'⟩ := hu
    have hwrapper : w = w' := by
      rw [← hp.wrapperOf_eq hw, ← hp.wrapperOf_eq hw']
      exact congrArg (Renames.wrapperOf p) heq
    rw [hwrapper] at hname
    exact hname.trans hname'.symm
  | _ => exact Eq.trans ht (Eq.symm hu)

/-- Types with well-made names are known by their labels. -/
theorem WellNamed.eq_of_labelAt_eq (hp : p.DistinctWrappers) (ht : t.WellNamed p)
    (hu : u.WellNamed p) (h : ∀ position, t.labelAt position = u.labelAt position) : t = u :=
  ResolvedType.eq_of_labelAt_eq (fun _ _ ht hu => ht.name_eq hp hu) ht hu h

/-- What is named by its kind is so under new names, which are rendered anew. -/
theorem NamedByKind.renamed (hp : p.DistinctWrappers) (h : t.NamedByKind p) (ρ : Renames) :
    (ρ.type p t).NamedByKind p := by
  obtain ⟨name, target, kind, nullability, default⟩ := t
  cases kind with
  | model n =>
    simp only [Renames.type]
    cases ρ.lookup n with
    | none => exact h
    | some new => exact ⟨rfl, rfl⟩
  | array u | map u =>
    simp only [Renames.type]
    exact rfl
  | async u =>
    -- the template is that of the wrapper which the target leads to
    obtain ⟨w, hw, rfl, rfl⟩ := h
    simp only [Renames.type, hp.wrapperOf_eq hw]
    exact ⟨w, hw, rfl, rfl⟩
  | _ =>
    simp only [Renames.type]
    exact h

theorem WellNamed.renamed (hp : p.DistinctWrappers) (h : t.WellNamed p) (ρ : Renames) :
    (ρ.type p t).WellNamed p :=
  ρ.forall_nodes_type (fun _ hu => hu.renamed hp ρ) h

end ResolvedType

/-! ### Labels under new names -/

namespace Renames

variable (ρ : Renames) {p : Profile} {t : ResolvedType}

theorem head_type (t : ResolvedType) :
    (ρ.type p t).kind.head = t.kind.head.bimap ρ.of id := by
  rw [kind_type, kind_eq_bimap, TypeKind.head, TypeKind.head, TypeKind.bimap_bimap,
    TypeKind.bimap_bimap]
  rfl

/-- At a position is what was there before, under the new names. -/
theorem nodeAt?_type (t : ResolvedType) (position : List Nat) :
    (ρ.type p t).nodeAt? position = (t.nodeAt? position).map (ρ.type p) := by
  induction position generalizing t with
  | nil => rfl
  | cons i rest ih =>
    rw [ResolvedType.nodeAt?_cons, ResolvedType.nodeAt?_cons, kind_type, parts_kind,
      List.getElem?_map]
    cases t.kind.parts[i]? with
    | none => rfl
    | some u => exact ih u

theorem target_type (h : t.NamedByKind p) :
    (ρ.type p t).target = (t.label.renamed ρ.of).target := by
  obtain ⟨name, target, kind, nullability, default⟩ := t
  cases kind with
  | model n =>
    -- without a new name for it, the model keeps the name that the platform knows it by
    obtain ⟨hname, -⟩ := h
    obtain rfl : target.name = n := hname
    change _ = { target with name := ρ.of target.name }
    simp only [type, of]
    cases ρ.lookup target.name <;> rfl
  | _ =>
    simp only [type]
    rfl

/-- Whatever a type says itself stays, but for the models that it names. -/
theorem label_type (h : t.NamedByKind p) : (ρ.type p t).label = t.label.renamed ρ.of := by
  rw [ResolvedType.label, head_type, ρ.target_type h, nullability_type, defaultValue_type]
  rfl

/-- At every position the label is the one that was there, with other models. -/
theorem labelAt_type (ht : t.WellNamed p) (position : List Nat) :
    (ρ.type p t).labelAt position =
      (t.labelAt position).map (ResolvedType.Label.renamed ρ.of) := by
  rw [ResolvedType.labelAt, nodeAt?_type, Option.map_map, ResolvedType.labelAt, Option.map_map]
  exact Option.map_congr fun u hu => ρ.label_type (ht u (ResolvedType.mem_nodes_of_nodeAt? hu))

/-! ### New names for new names -/

/-- New names, and then others: what has got a new name may get another one for it, and what has got
none may get one. -/
def andThen (ρ σ : Renames) : Renames := ρ.map (Prod.map id σ.of) ++ σ

theorem of_andThen (σ : Renames) (n : String) : (ρ.andThen σ).of n = σ.of (ρ.of n) := by
  simp only [of, andThen, List.lookup_append, lookup_map_snd]
  cases ρ.lookup n <;> rfl

/-- What gets new names one after the other gets the last ones at once. -/
theorem type_type (hp : p.DistinctWrappers) (ht : t.WellNamed p) {σ τ : Renames}
    (h : ∀ n ∈ t.mentions, τ.of n = σ.of (ρ.of n)) :
    σ.type p (ρ.type p t) = τ.type p t := by
  have hρ : (ρ.type p t).WellNamed p := ht.renamed hp ρ
  have htwice : ResolvedType.Label.renamed σ.of ∘ ResolvedType.Label.renamed ρ.of =
      ResolvedType.Label.renamed (σ.of ∘ ρ.of) :=
    funext (ResolvedType.Label.renamed_renamed ρ.of σ.of)
  refine (hρ.renamed hp σ).eq_of_labelAt_eq hp (ht.renamed hp τ) fun position => ?_
  rw [σ.labelAt_type hρ, ρ.labelAt_type ht, τ.labelAt_type ht, Option.map_map, htwice]
  exact (ResolvedType.map_renamed_labelAt_congr h position).symm

/-- Without a new name for anything that it mentions, a type stays as it is. -/
theorem type_eq_self (hp : p.DistinctWrappers) (ht : t.WellNamed p)
    (h : ∀ n ∈ t.mentions, n ∉ ρ.map Prod.fst) : ρ.type p t = t := by
  have hnone : ρ.type p t = type [] p t :=
    type_congr fun n hn => lookup_eq_none_iff_notMem.mpr (h n hn)
  rw [hnone, type_nil hp ht.rendered]

/-- Renaming is simultaneous substitution, in every type whose rendered names are what the kinds of
its nodes and the templates of a profile say. The type stays as it is where nothing that it mentions
has a new name. At each position it says what it said before, with every model and every target of a
discriminator replaced once by its new name. Its rendered names are again what the kinds say. And to
rename twice is to rename once, by any new names that do at once what the others do one after the
other; there are such new names. -/
theorem simultaneous_type {id : String} (hid : Profile.builtin? id = some p)
    (ht : t.WellNamed p) (ρ : Renames) :
    ((∀ n ∈ t.mentions, n ∉ ρ.map Prod.fst) → ρ.type p t = t) ∧
      (∀ position, (ρ.type p t).labelAt position =
        (t.labelAt position).map (ResolvedType.Label.renamed ρ.of)) ∧
      (ρ.type p t).WellNamed p ∧
      ∀ σ : Renames, (∀ n, (ρ.andThen σ).of n = σ.of (ρ.of n)) ∧
        ∀ τ : Renames, (∀ n ∈ t.mentions, τ.of n = σ.of (ρ.of n)) →
          σ.type p (ρ.type p t) = τ.type p t := by
  have hp := Profile.distinctWrappers_of_builtin hid
  refine ⟨ρ.type_eq_self hp ht, ρ.labelAt_type ht, ht.renamed hp ρ, fun σ => ?_⟩
  exact ⟨ρ.of_andThen σ, fun τ h => ρ.type_type hp ht h⟩

end Renames

/-! ### Models that get the names of others -/

namespace ResolvedType

/-- A pet, or a list of pets of another model; a property tells which. -/
def petOrPets : ResolvedType :=
  .ofTarget (.named "PetOrPets") (.union
    { members := [.ofModel "Pet", Layer.wrap .jaxrsSpec (.ofModel "Pet2") (.array .asIs)]
      discriminator := some
        { propertyName := "kind", mapping := [("one", "Pet"), ("all", "Pet2")] } })

/-- The same, delivered later. -/
def uniPetOrPets : ResolvedType := Profile.jaxrsSpec.async { useReactive := true } petOrPets

theorem wellNamed_uniPetOrPets : uniPetOrPets.WellNamed .jaxrsSpec := by
  have hcontainers : Profile.jaxrsSpec.ObjectContainers := ⟨rfl, rfl⟩
  have hunion : petOrPets.Plain .jaxrsSpec { useReactive := true } := by
    refine plain_ofTarget rfl rfl (List.forall_mem_cons.mpr ⟨plain_ofModel _, ?_⟩)
    exact List.forall_mem_singleton.mpr (plain_wrap hcontainers (plain_ofModel _) _)
  have hstructural : uniPetOrPets.Structural .jaxrsSpec { useReactive := true } :=
    structural_iff.mpr ⟨⟨rfl, rfl⟩, List.forall_mem_singleton.mpr hunion.structural⟩
  exact hstructural.wellNamed

end ResolvedType

namespace Renames

/-- Where a model gets the name of another one that gets a new name itself, nothing is renamed
twice: neither a model nor a target, nor the name of a list. New names for models that are not
mentioned change nothing. -/
theorem simultaneous_uniPetOrPets :
    Profile.builtin? "jaxrs_spec" = some .jaxrsSpec ∧
      ResolvedType.uniPetOrPets.WellNamed .jaxrsSpec ∧
      (type [("Pet", "Pet2"), ("Pet2", "Pet3")] .jaxrsSpec .uniPetOrPets).nodes.map (·.name) =
        ["Uni<PetOrPets>", "PetOrPets", "Pet2", "List<Pet3>", "Pet3"] ∧
      (type [("Pet", "Pet2"), ("Pet2", "Pet3")] .jaxrsSpec .uniPetOrPets).targets =
        ["Pet2", "Pet3"] ∧
      type [("Pet3", "Pet")] .jaxrsSpec
          (type [("Pet", "Pet2"), ("Pet2", "Pet3")] .jaxrsSpec .uniPetOrPets) =
        type [("Pet", "Pet2"), ("Pet2", "Pet")] .jaxrsSpec .uniPetOrPets ∧
      type [("Cat", "Pet")] .jaxrsSpec .uniPetOrPets = .uniPetOrPets := by
  have hid : Profile.builtin? "jaxrs_spec" = some .jaxrsSpec := rfl
  have hnamed := ResolvedType.wellNamed_uniPetOrPets
  obtain ⟨-, -, -, htwice⟩ := simultaneous_type hid hnamed [("Pet", "Pet2"), ("Pet2", "Pet3")]
  obtain ⟨hself, -⟩ := simultaneous_type hid hnamed [("Cat", "Pet")]
  refine ⟨hid, hnamed, by decide +kernel, by decide +kernel, ?_, hself (by decide +kernel)⟩
  exact (htwice [("Pet3", "Pet")]).2 _ (by decide +kernel)

end Renames

end ApiModel
