import ApiModel.Proofs.Generation.NamedModels
import ApiModel.Proofs.Relations
import ApiModel.Proofs.Resolution.HeldProperties
import ApiModel.Proofs.Resolution.Meaning

/-!
# Models that are other names

The model of a named schema may be another name for that of a second one, which may be another name
in turn. A schema that is a pointer is followed until a model is found, with a check that no name
comes twice, and branches that are merged are expanded with such a check as well. But an all-of of
one branch is another name for its branch, and is a model itself: what leads to it stops there. So
nothing notices when schemas of this kind lead to each other.

## Main definitions

* `Contract.SynonymStep`: from a model to the one for which it is another name.
* `Components.SynonymFor`, `Components.StandsFor`: the named schemas whose models are other names.
* `Components.LoneStep`: a named schema is an all-of of one branch, which is another name.

## Main results

* `Contract.IsModelOf.synonymOf?_iff`: when the model of a named schema is another name.
* `Components.loneStep_of_cycle`: on a cycle there are only all-ofs of one branch.
* `synonyms_of_generate`: when every way from other names to other names ends.
-/

namespace ApiModel

open Relation

/-- From the model of a named schema to that for which it is another name. -/
def Contract.SynonymStep (c : Contract) (out : TargetModel) (m m' : Model) : Prop :=
  m ∈ c.namedModels out ∧ m' ∈ c.namedModels out ∧ m.synonymOf? = some m'.name.pascalCase

/-- A schema is nothing but an all-of of one branch. -/
structure SchemaBody.Wraps (s : Schema) (branch : SchemaNode) : Prop where
  noEnum : s.isEnum = false
  noUnion : s.isUnion = false
  allOf : s.allOf = [branch]
  noProperties : s.properties = []

namespace Components

/-- The model of a named schema is another name for a named schema. -/
def SynonymFor (c : Components) (e : String × SchemaNode) (meant : String) : Prop :=
  ∃ node, c.componentForm e.1 e.2 = .ok (.synonym node) ∧ c.Means node meant

/-- The model of a named schema is another name for the model of a named schema. -/
def StandsFor (c : Components) (e e' : String × SchemaNode) : Prop :=
  e ∈ c.schemas ∧ e' ∈ c.schemas ∧
    ∃ meant, c.SynonymFor e meant ∧ (Name.ofText meant).pascalCase = (Name.ofText e'.1).pascalCase

/-- A named schema is nothing but an all-of of one branch, and the branch is another name for a
named schema. -/
def LoneStep (c : Components) (name meant : String) : Prop :=
  ∃ (s : Schema) (branch : SchemaNode),
    c.schemas.lookup name = some (.inline s) ∧ s.Wraps branch ∧ c.Means branch meant

variable {c : Components} {e e' : String × SchemaNode} {name meant : String}

/-! ### What a schema is that is another name -/

/-- The model of an all-of of one branch is another name for whatever the branch is. -/
theorem synonymFor_of_wraps {s : Schema} {branch : SchemaNode} (h : s.Wraps branch)
    (hmeans : c.Means branch meant) : c.SynonymFor (name, .inline s) meant := by
  refine ⟨branch, ?_, hmeans⟩
  simp [componentForm, modelForm, composedForm, h.noEnum, h.noUnion, h.allOf, h.noProperties]

/-- A schema that becomes another name is an all-of of one branch, or an all-of whose branches are
merged to a value, or no all-of. -/
theorem modelForm_eq_synonym {origin location : String} {s : Schema} {node : SchemaNode}
    (h : c.modelForm origin location s = .ok (.synonym node)) :
    s.Wraps node ∨
      (∃ value, node = .inline value ∧ (c.flatten location .empty (.inline s)).stop = none ∧
        value ∈ (c.flatten location .empty (.inline s)).schemas) ∨
      s.allOf = [] ∧ node = .inline s := by
  rw [modelForm] at h
  split at h
  · cases h
  next henum =>
  split at h
  · cases h
  next hunion =>
  split at h
  next =>
    rcases composedForm_cases h with ⟨hproperties, branch, hallOf, heq⟩ | ⟨-, parent, heq⟩ |
      ⟨-, merged, hmerge, heq⟩
    · cases heq
      exact .inl ⟨by simpa using henum, by simpa using hunion, hallOf, hproperties⟩
    · cases heq
    · obtain ⟨value, hvalue, rfl⟩ := merged.exists_value_of_form heq.symm
      obtain ⟨hadd, hstop⟩ := merge_eq_ok hmerge
      have hmem := (Merged.mem_of_addAll hadd hvalue).resolve_left (by simp)
      exact .inr (.inl ⟨value, rfl, hstop, hmem⟩)
  next hnone =>
    split at h <;> cases h
    exact .inr (.inr ⟨by simpa using hnone, rfl⟩)

/-- A named schema whose model is another name is a pointer, or an all-of of one branch, or an
all-of whose branches are merged. -/
theorem SynonymFor.ref_or_wraps_or_merged (h : c.SynonymFor e meant) :
    (∃ pointer, e.2 = .ref pointer ∧ c.Expands e.2 meant) ∨
      (∃ (s : Schema) (branch : SchemaNode),
        e.2 = .inline s ∧ s.Wraps branch ∧ c.Means branch meant) ∨
      ∃ location, (c.flatten location .empty e.2).stop = none ∧ c.Expands e.2 meant := by
  obtain ⟨node, hform, hmeans⟩ := h
  rcases hnode : e.2 with pointer | s <;> rw [hnode] at hform
  · cases hform
    exact .inl ⟨pointer, rfl, hmeans.expands⟩
  refine .inr ?_
  rcases modelForm_eq_synonym hform with hwraps | ⟨value, rfl, hstop, hmem⟩ | ⟨hnone, rfl⟩
  · exact .inl ⟨s, node, rfl, hwraps, hmeans⟩
  · exact .inr ⟨_, hstop, expands_of_flatten hmem hmeans.expands⟩
  · cases hmeans with
    | lone hlone => simp [s.allOf_of_form_lone hlone] at hnone

/-- What the model of a named schema is another name for is met when the schema is expanded. -/
theorem SynonymFor.expands (h : c.SynonymFor e meant) : c.Expands e.2 meant := by
  rcases h.ref_or_wraps_or_merged with ⟨_, -, hexpands⟩ | ⟨s, branch, hs, hwraps, hmeans⟩ |
    ⟨_, -, hexpands⟩
  · exact hexpands
  · have hbranch : branch ∈ s.allOf := by simp [hwraps.allOf]
    exact hs ▸ .branch hbranch hmeans.expands
  · exact hexpands

/-! ### Cycles -/

/-- Where the names of the models are distinct, what a schema stands for is what it is another name
for, and is a model. -/
theorem StandsFor.of_nodup (hnames : c.modelNames.Nodup) (h : c.StandsFor e e') :
    c.SynonymFor e e'.1 ∧ e'.2.isModel = true := by
  obtain ⟨-, he', meant, hfor, hcase⟩ := h
  obtain ⟨target, hfound, hmodel⟩ := hfor.choose_spec.2.exists_target
  obtain rfl : meant = e'.1 := name_eq_of_nodup hnames (mem_keys_of_lookup_eq_some hfound)
    (List.mem_map_of_mem he') hcase
  rw [lookup_of_nodup hnames he'] at hfound
  obtain rfl := Option.some.inj hfound
  exact ⟨hfor, hmodel⟩

/-- Whatever other names lead to is met when the first schema is expanded. -/
theorem expands_of_standsFor (hnames : c.modelNames.Nodup) (h : TransGen c.StandsFor e e') :
    c.Expands e.2 e'.1 := by
  induction h with
  | single hstep => exact (hstep.of_nodup hnames).1.expands
  | tail _ hstep ih =>
    exact ih.trans (lookup_of_nodup hnames hstep.1) (hstep.of_nodup hnames).1.expands

/-- On a cycle of other names there are only all-ofs of one branch. A pointer is no model, so no
other name stands for it, and merged branches would have been met again inside of themselves. -/
theorem loneStep_of_cycle (hnames : c.modelNames.Nodup) (h : c.StandsFor e e')
    (hback : ReflTransGen c.StandsFor e' e) : c.LoneStep e.1 e'.1 := by
  obtain ⟨hfor, -⟩ := h.of_nodup hnames
  rcases hfor.ref_or_wraps_or_merged with ⟨pointer, hpointer, -⟩ | ⟨s, branch, hs, hwraps, hmeans⟩ |
    ⟨location, hstop, hexpands⟩
  · obtain ⟨before, -, hlast⟩ := TransGen.tail'_iff.mp (TransGen.head' h hback)
    have hmodel := (hlast.of_nodup hnames).2
    rw [hpointer] at hmodel
    cases hmodel
  · exact ⟨s, branch, hs ▸ lookup_of_nodup hnames h.1, hwraps, hmeans⟩
  · have hagain : c.Expands e'.2 e'.1 := expands_of_standsFor hnames (TransGen.tail' hback h)
    exact absurd hagain (not_expands_of_flatten hstop hexpands (lookup_of_nodup hnames h.2.1))

/-- Where the names of the models are distinct, other names lead back to themselves exactly when
all-ofs of one branch do. -/
theorem standsFor_cycle_iff (hnames : c.modelNames.Nodup) :
    (∃ e, TransGen c.StandsFor e e) ↔ ∃ name, TransGen c.LoneStep name name := by
  constructor
  · rintro ⟨e, hcycle⟩
    have hlone : TransGen (fun e e' => c.LoneStep e.1 e'.1) e e :=
      transGen_of_cycle (fun _ _ => loneStep_of_cycle hnames) hcycle .refl
    exact ⟨e.1, hlone.lift Prod.fst fun _ _ hstep => hstep⟩
  · rintro ⟨name, hcycle⟩
    let entry (name : String) : String × SchemaNode :=
      (name, (c.schemas.lookup name).getD (.inline {}))
    refine ⟨entry name, hcycle.lift entry fun name meant hstep => ?_⟩
    obtain ⟨s, branch, hfound, hwraps, hmeans⟩ := hstep
    obtain ⟨target, hfound', -⟩ := hmeans.exists_target
    have hentry : entry name = (name, .inline s) := by simp [entry, hfound]
    have hentry' : entry meant = (meant, target) := by simp [entry, hfound']
    change c.StandsFor (entry name) (entry meant)
    rw [hentry, hentry']
    exact ⟨mem_of_lookup_eq_some hfound, mem_of_lookup_eq_some hfound', meant,
      synonymFor_of_wraps hwraps hmeans, rfl⟩

/-- What is met when a position is expanded is named by pointers, from schema to schema. -/
theorem Expands.pointsTo {node entry : SchemaNode} (h : c.Expands node meant)
    (hentry : (name, entry) ∈ c.schemas) (hsub : node.pointers ⊆ entry.pointers) :
    TransGen (PointsTo "schemas" SchemaNode.pointers c.schemas) name meant := by
  induction h generalizing name entry with
  | here hname => exact .single ⟨entry, hentry, _, hsub (List.mem_singleton.mpr rfl), hname⟩
  | through hname hfound _ ih =>
    exact .head ⟨entry, hentry, _, hsub (List.mem_singleton.mpr rfl), hname⟩
      (ih (mem_of_lookup_eq_some hfound) (List.Subset.refl _))
  | branch hbranch _ ih =>
    have hpart := SchemaBody.mem_parts.mpr (.inr (.inr (.inr (.inl hbranch))))
    exact ih hentry (List.Subset.trans (SchemaNode.pointers_subset_of_mem_parts hpart) hsub)

/-- Where no schema points back to itself, no all-of of one branch leads back to itself. -/
theorem not_loneStep_cycle (hc : NoCycle "schemas" SchemaNode.pointers c.schemas) (name : String) :
    ¬TransGen c.LoneStep name name := by
  intro hcycle
  have hpoints (name meant : String) (hstep : c.LoneStep name meant) :
      TransGen (PointsTo "schemas" SchemaNode.pointers c.schemas) name meant := by
    obtain ⟨s, branch, hfound, hwraps, hmeans⟩ := hstep
    have hbranch : branch ∈ s.allOf := by simp [hwraps.allOf]
    exact (Expands.branch hbranch hmeans.expands).pointsTo (mem_of_lookup_eq_some hfound)
      (List.Subset.refl _)
  exact hc name (hcycle.lift' id hpoints)

end Components

/-- The model of a named schema is another name for that of a named schema when the schema is. -/
theorem Contract.IsModelOf.synonymOf?_iff {c : Contract} {p : Profile} {flags : Flags}
    {e : String × SchemaNode} {m : Model} (h : c.IsModelOf p flags e m) {n : String}
    (hn : n ∈ c.components.modelNames) : m.synonymOf? = some n ↔
      ∃ meant, c.components.SynonymFor e meant ∧ (Name.ofText meant).pascalCase = n := by
  obtain @⟨m, promoted, ρ, imports, hrun, hspares, hnil⟩ := h
  obtain ⟨st, hout, hpromoted⟩ := Resolver.exists_outcome_of_run hrun
  rw [Resolver.component_eq] at hout
  obtain ⟨form, hform, hout⟩ := Resolving.exists_of_outcome_lift_bind hout
  change (ρ.model p m).synonymOf? = some n ↔ _
  rw [Renames.synonymOf?_model]
  constructor
  · intro hsynonym
    obtain ⟨n', hn', hsame⟩ := Option.map_eq_some_iff.mp hsynonym
    obtain rfl : n' = n := by rw [← hsame, hspares.of_eq (hsame ▸ hn)]
    obtain ⟨t, hshape, hkind⟩ := Model.synonymOf?_eq_some_iff.mp hn'
    obtain ⟨node, rfl, hresolve⟩ := Resolver.exists_synonym_of_modelOf rfl hout hshape
    rcases Resolver.means_of_resolve hresolve hkind with ⟨meant, hmeans, heq⟩ | hfree
    · exact ⟨meant, ⟨node, hform, hmeans⟩, heq.symm⟩
    · exact absurd (List.mem_append_left _ hn) hfree
  · rintro ⟨meant, ⟨node, hnode, hmeans⟩, rfl⟩
    obtain rfl : form = .synonym node := Except.ok.inj (hform.symm.trans hnode)
    obtain ⟨t, st', hresolve, hout⟩ := Resolving.exists_of_outcome_bind hout
    obtain ⟨hkind, rfl⟩ := Resolver.kind_of_means hmeans hresolve
    cases hout
    have hnone : ρ = [] := hnil hpromoted.symm
    rw [hnone, Renames.of_nil, Option.map_id_fun, id, Model.synonymOf?_eq_some_iff]
    exact ⟨t, rfl, hkind⟩

/-! ### The models of an output -/

section Output

variable {c : Contract} {p : Profile} {flags : Flags} {out : TargetModel}

/-- A model is another name for another one when the schema of the one is for that of the other. -/
theorem synonymStep_iff {e e' : String × SchemaNode} {m m' : Model} (he : e ∈ c.components.schemas)
    (he' : e' ∈ c.components.schemas) (hm : m ∈ c.namedModels out) (hm' : m' ∈ c.namedModels out)
    (hmodel : c.IsModelOf p flags e m) (hmodel' : c.IsModelOf p flags e' m') :
    c.SynonymStep out m m' ↔ c.components.StandsFor e e' := by
  have hname : (Name.ofText e'.1).pascalCase ∈ c.components.modelNames :=
    List.mem_map_of_mem (List.mem_map_of_mem he')
  simp only [Contract.SynonymStep, Components.StandsFor, he, he', hm, hm', true_and,
    hmodel'.name_eq, hmodel.synonymOf?_iff hname]

/-- No way from models to those for which they are other names goes on for ever exactly when none
does from their schemas. -/
theorem wellFounded_synonymStep_iff (h : generate c p flags = .ok out) :
    WellFounded (Function.swap (c.SynonymStep out)) ↔
      WellFounded (Function.swap c.components.StandsFor) := by
  have hmodels := isModelOf_of_generate h
  have hentry {m : Model} (hm : m ∈ c.namedModels out) : ∃ e,
      e ∈ c.components.schemas ∧ m ∈ c.namedModels out ∧ c.IsModelOf p flags e m := by
    obtain ⟨e, he, hmodel⟩ := exists_of_forall₂ hmodels hm
    exact ⟨e, he, hm, hmodel⟩
  have hmodel {e : String × SchemaNode} (he : e ∈ c.components.schemas) : ∃ m,
      e ∈ c.components.schemas ∧ m ∈ c.namedModels out ∧ c.IsModelOf p flags e m := by
    obtain ⟨m, hm, hmodel⟩ := exists_of_forall₂ hmodels.flip he
    exact ⟨m, he, hm, hmodel⟩
  refine wellFounded_swap_iff_of_corresponding (fun m e =>
    e ∈ c.components.schemas ∧ m ∈ c.namedModels out ∧ c.IsModelOf p flags e m) ?_ ?_ ?_
  · exact fun m m' hstep => ⟨hentry hstep.1, hentry hstep.2.1⟩
  · exact fun e e' hstep => ⟨hmodel hstep.1, hmodel hstep.2.1⟩
  · rintro m m' e e' ⟨he, hm, hmodel⟩ ⟨he', hm', hmodel'⟩
    exact synonymStep_iff he he' hm hm' hmodel hmodel'

/-- Every way from other names to other names ends exactly when none of the named schemas leads back
to itself by them. Where the names of the models are distinct, this is when no all-of of one branch
leads back to itself by such all-ofs. -/
theorem synonyms_of_generate (h : generate c p flags = .ok out) :
    (WellFounded (Function.swap (c.SynonymStep out)) ↔
      ∀ e, ¬TransGen c.components.StandsFor e e) ∧
    (c.components.modelNames.Nodup →
      (WellFounded (Function.swap (c.SynonymStep out)) ↔
        ∀ name, ¬TransGen c.components.LoneStep name name)) := by
  have hways : WellFounded (Function.swap (c.SynonymStep out)) ↔
      ∀ e, ¬TransGen c.components.StandsFor e e := by
    rw [wellFounded_synonymStep_iff h]
    exact wellFounded_swap_iff fun _ _ hstep => hstep.1
  refine ⟨hways, fun hnames => ?_⟩
  rw [hways, ← not_exists, ← not_exists, Components.standsFor_cycle_iff hnames]

end Output

/-- A kitten is a cat, a cat is a pet, and a pet is an object. -/
def kittens : List (String × SchemaNode) :=
  [("Kitten", .all [.ref "#/components/schemas/Cat"]),
   ("Cat", .ref "#/components/schemas/Pet"),
   ("Pet", .objectWith "id" .text)]

/-- A kitten and a cat are other names for a pet, and there the ways end. -/
theorem synonyms_of_kittens : ∃ out, generate (.ofSchemas kittens) .jaxrsSpec {} = .ok out ∧
    (out.models.map fun m => (m.name.pascalCase, m.synonymOf?)) =
      [("Kitten", some "Pet"), ("Cat", some "Pet"), ("Pet", none)] ∧
    WellFounded (Function.swap ((Contract.ofSchemas kittens).SynonymStep out)) := by
  have hrun : ∃ out, generate (.ofSchemas kittens) .jaxrsSpec {} = .ok out ∧
      (out.models.map fun m => (m.name.pascalCase, m.synonymOf?)) =
        [("Kitten", some "Pet"), ("Cat", some "Pet"), ("Pet", none)] :=
    exists_of_generate (by decide +kernel)
  obtain ⟨out, h, hmodels⟩ := hrun
  have hnames : (Contract.ofSchemas kittens).components.modelNames.Nodup := by decide +kernel
  have hnone : NoCycle "schemas" SchemaNode.pointers kittens :=
    noCycle_of_descends (fun name => ["Pet", "Cat", "Kitten"].idxOf name) (by decide +kernel)
  exact ⟨out, h, hmodels, ((synonyms_of_generate h).2 hnames).mpr
    (Components.not_loneStep_cycle hnone)⟩

/-- A cat is a pet, and a pet is a cat. -/
def catAndPet : List (String × SchemaNode) :=
  [("Cat", .all [.ref "#/components/schemas/Pet"]),
   ("Pet", .all [.ref "#/components/schemas/Cat"])]

/-- The model of the cat is another name for that of the pet, and the other way round, so the way
from either of them never ends. -/
theorem endless_synonyms : ∃ out, generate (.ofSchemas catAndPet) .jaxrsSpec {} = .ok out ∧
    (out.models.map fun m => (m.name.pascalCase, m.synonymOf?)) =
      [("Cat", some "Pet"), ("Pet", some "Cat")] ∧
    ¬WellFounded (Function.swap ((Contract.ofSchemas catAndPet).SynonymStep out)) := by
  have hrun : ∃ out, generate (.ofSchemas catAndPet) .jaxrsSpec {} = .ok out ∧
      (out.models.map fun m => (m.name.pascalCase, m.synonymOf?)) =
        [("Cat", some "Pet"), ("Pet", some "Cat")] := exists_of_generate (by decide +kernel)
  obtain ⟨out, h, hmodels⟩ := hrun
  refine ⟨out, h, hmodels, ?_⟩
  obtain ⟨cat, rest, hout, hcat, hrest⟩ := List.map_eq_cons_iff.mp hmodels
  obtain ⟨pet, _, rfl, hpet, hnone⟩ := List.map_eq_cons_iff.mp hrest
  obtain rfl := List.map_eq_nil_iff.mp hnone
  obtain ⟨hcatName, hcatSynonym⟩ := Prod.mk.inj hcat
  obtain ⟨hpetName, hpetSynonym⟩ := Prod.mk.inj hpet
  have hnamed : (Contract.ofSchemas catAndPet).namedModels out = [cat, pet] := by
    rw [Contract.namedModels, hout]
    rfl
  have hcycle : TransGen ((Contract.ofSchemas catAndPet).SynonymStep out) cat cat := by
    refine .tail (.single (b := pet) ?_) ?_
    · exact ⟨by simp [hnamed], by simp [hnamed], by rw [hcatSynonym, hpetName]⟩
    · exact ⟨by simp [hnamed], by simp [hnamed], by rw [hpetSynonym, hcatName]⟩
  exact fun hends => (wellFounded_swap_iff fun _ _ hstep => hstep.1).mp hends cat hcycle

end ApiModel
