import ApiModel.Proofs.Generation.References
import ApiModel.Proofs.Resolution.Targets

/-!
# The discriminators in the output

A discriminator of a contract maps values to schemas, by pointers or by bare names. What its mapping
writes is never looked up, so it may be the name of no schema, and then it leads to no model, unless
some model happens to go by it. All other targets are names of named schemas, which lead to their
models. A target follows the new names of promoted models, as references do.

## Main definitions

* `Contract.Maps`: the mappings of a contract write some name.
* `Registry.Directs`: what holds of a target, given a registry.
* `targetsLaw`: every step of the generation keeps it.

## Main results

* `discriminators_of_generate`: when the discriminators of an output lead to its models.
* `dangling_target`: a contract for which they do not.
-/

namespace ApiModel

/-- A mapping of some schema of the contract sends a value to the model of a name. -/
def Contract.Maps (c : Contract) (target : String) : Prop :=
  ∃ d, ContractDiscriminator.Within c.Stands d ∧ d.Maps target

theorem ApiOperation.targets_named (op : ApiOperation) (name : String) :
    (op.named name).targets = op.targets := by
  rw [named]
  split <;> rfl

/-- The targets that a resolver makes for a contract are names of named schemas or are written in
its mappings. -/
theorem Contract.aims (c : Contract) (p : Profile) (flags : Flags) :
    (c.resolver p flags).Aims c.Stands fun n => c.Maps n ∨ n ∈ c.components.modelNames where
  closed := c.closed_stands
  named _ hn := .inr hn
  mapped d hd _ hn := .inl ⟨d, hd, hn⟩

/-! ### Every step of the generation -/

namespace Registry

variable {c : Contract} {reg : Registry} {p : Profile} {flags : Flags} {promoted : List Model}

/-- Given a registry, a target is written in a mapping of the contract, or leads on as a reference
does. -/
def Directs (c : Contract) (reg : Registry) (n : String) : Prop :=
  c.Maps n ∨ reg.Leads c.components.schemaNames n

theorem Directs.adopt {n : String} (h : reg.Directs c n) (p : Profile) (promoted : List Model) :
    (reg.adopt p promoted).2.Directs c n :=
  h.imp_right fun hleads => hleads.adopt p promoted

/-- A target of a resolver is as it should be when it has followed the new names. -/
theorem Sound.directs_of (h : reg.Sound c.components.schemaNames) {n : String}
    (hn : c.Maps n ∨ n ∈ c.components.modelNames) :
    (reg.adopt p promoted).2.Directs c ((reg.adopt p promoted).1.of n) := by
  rcases h.of_eq_or_leads p promoted n with hself | hleads
  · rw [hself]
    exact hn.imp_right .inl
  · exact .inr hleads

/-- What holds of the registry: its entries are named as they should be, and so are the targets of
their discriminators. -/
structure Directing (c : Contract) (reg : Registry) : Prop
    extends reg.Referring c.components.schemaNames where
  directs : ∀ e ∈ reg.entries, ∀ n ∈ e.2.targets, reg.Directs c n

theorem directing_initial (c : Contract) : (initial c.components.schemaNames).Directing c where
  toReferring := referring_initial _
  directs := by simp [initial]

/-- The targets of promoted models are as they should be when the models have been taken. -/
theorem Directing.adopt (h : reg.Directing c)
    (hpromoted : (c.resolver p flags).referenceLaw.Promoted promoted)
    (htargets : ∀ m ∈ promoted, ∀ n ∈ m.targets, c.Maps n ∨ n ∈ c.components.modelNames) :
    (reg.adopt p promoted).2.Directing c where
  toReferring := h.toReferring.adopt hpromoted
  directs e he n hn := by
    have hdirects (m : Model) (hm : m ∈ promoted)
        (hn : n ∈ m.targets.map (reg.adopt p promoted).1.of) :
        (reg.adopt p promoted).2.Directs c n := by
      obtain ⟨target, htarget, rfl⟩ := List.mem_map.mp hn
      exact h.directs_of (htargets m hm target htarget)
    rcases h.mem_entries_adopt he with he | ⟨m, hm, rfl | ⟨-, hnamed⟩⟩
    · exact (h.directs e he n hn).adopt p promoted
    · rw [Renames.targets_model] at hn
      exact hdirects m hm hn
    · rw [hnamed, Renames.targets_model, Model.targets_named] at hn
      exact hdirects m hm hn

end Registry

/-- Every step of the generation keeps what holds of the targets. -/
def targetsLaw (c : Contract) (p : Profile) (flags : Flags) : GenerationLaw c p flags where
  registry reg := reg.Directing c
  model reg m := ∀ n ∈ m.targets, reg.Directs c n
  operation reg op := ∀ n ∈ op.targets, reg.Directs c n
  initial := Registry.directing_initial c
  model_mono promoted h n hn := (h n hn).adopt p promoted
  operation_mono promoted h n hn := (h n hn).adopt p promoted
  component hmem hreg hrun := by
    obtain ⟨-, hpromoted⟩ := Resolver.Law.run_component (c.resolver p flags).referenceLaw hrun
    obtain ⟨htargets, hm⟩ :=
      (c.aims p flags).run_component (c.closed_stands.named hmem) hrun
    refine ⟨hreg.adopt hpromoted htargets, fun n hn => ?_⟩
    rw [Renames.targets_model] at hn
    obtain ⟨target, htarget, rfl⟩ := List.mem_map.mp hn
    exact hreg.directs_of (hm target htarget)
  endpoint hmem hreg hrun := by
    obtain ⟨-, hpromoted⟩ := Resolver.Law.run_operation (c.resolver p flags).referenceLaw hrun
    obtain ⟨htargets, hop⟩ :=
      (c.aims p flags).run_operation (fun _ hnode => .operation hmem hnode) hrun
    refine ⟨hreg.adopt hpromoted htargets, fun name n hn => ?_⟩
    rw [ApiOperation.targets_named, Renames.targets_operation] at hn
    obtain ⟨target, htarget, rfl⟩ := List.mem_map.mp hn
    exact hreg.directs_of (hop target htarget)

/-! ### The output -/

section Output

variable {c : Contract} {p : Profile} {flags : Flags} {out : TargetModel}

/-- A target in `PascalCase` that no mapping writes leads to a model. -/
theorem exists_model_of_unmapped (h : generate c p flags = .ok out) {n : String}
    (hn : n ∈ out.targets) (hmaps : ¬ c.Maps n) (hcase : (Name.ofText n).pascalCase = n) :
    ∃ m ∈ out.models, m.name.pascalCase = n := by
  obtain ⟨reg, hreg, hdirects, hentries⟩ := (targetsLaw c p flags).holds_read
    Model.targets ApiOperation.targets (Q := fun reg n => reg.Directs c n) (fun _ _ => rfl)
    (fun _ hreg => hreg.directs) (fun _ _ hm => hm) (fun _ _ hop => hop) h
  exact exists_model_of_leads h hreg.named hentries ((hdirects n hn).resolve_left hmaps) hcase

/-- A target leads to a model exactly when it is the name of a named schema, or is in `PascalCase`
and no mapping writes it, or some model happens to go by it. -/
theorem exists_model_iff_of_target (h : generate c p flags = .ok out) {n : String}
    (hn : n ∈ out.targets) :
    (∃ m ∈ out.models, m.name.pascalCase = n) ↔
      n ∈ c.components.modelNames ∨ (¬ c.Maps n ∧ (Name.ofText n).pascalCase = n) ∨
        ∃ m ∈ out.models, (c.Maps n ∨ m.name.text ≠ n) ∧ m.name.pascalCase = n := by
  constructor
  · rintro ⟨m, hm, hname⟩
    by_cases hother : c.Maps n ∨ m.name.text ≠ n
    · exact .inr (.inr ⟨m, hm, hother, hname⟩)
    · obtain ⟨hmaps, htext⟩ := not_or.mp hother
      rw [name_eq_ofText_of_generate h m hm, not_not.mp htext] at hname
      exact .inr (.inl ⟨hmaps, hname⟩)
  · rintro (hschema | ⟨hmaps, hcase⟩ | ⟨m, hm, -, hname⟩)
    · exact exists_model_of_mem_modelNames h hschema
    · exact exists_model_of_unmapped h hn hmaps hcase
    · exact ⟨m, hm, hname⟩

/-- All discriminators of an output lead to models exactly when each of their targets is the name of
a named schema, or is in `PascalCase` and no mapping of the contract writes it, or some model
happens to go by it. -/
theorem discriminators_of_generate (h : generate c p flags = .ok out) :
    (∀ n ∈ out.targets, ∃ m ∈ out.models, m.name.pascalCase = n) ↔
      ∀ n ∈ out.targets, n ∈ c.components.modelNames ∨
        (¬ c.Maps n ∧ (Name.ofText n).pascalCase = n) ∨
          ∃ m ∈ out.models, (c.Maps n ∨ m.name.text ≠ n) ∧ m.name.pascalCase = n :=
  forall₂_congr fun _ hn => exists_model_iff_of_target h hn

end Output

/-! ### Cats and dogs -/

/-- A contract with a union of two named schemas, which are told apart by a property. -/
def Contract.pets (mapping : List (String × String)) : Contract :=
  .ofSchemas [("Cat", .objectWith "kind" .text), ("Dog", .objectWith "kind" .text),
    ("Pet", .inline
      { oneOf := [.ref "#/components/schemas/Cat", .ref "#/components/schemas/Dog"]
        discriminator := some { propertyName := "kind", mapping } })]

/-- A pointer and a bare name both lead to the model of the named schema. -/
theorem discriminators_of_pets : ∃ out,
    generate (.pets [("cat", "#/components/schemas/Cat"), ("dog", "Dog")]) .jaxrsSpec {} =
      .ok out ∧ out.targets = ["Cat", "Dog", "Cat", "Dog"] ∧
    ∀ n ∈ out.targets, ∃ m ∈ out.models, m.name.pascalCase = n := by
  have hrun : ∃ out,
      generate (.pets [("cat", "#/components/schemas/Cat"), ("dog", "Dog")]) .jaxrsSpec {} =
        .ok out ∧ out.targets = ["Cat", "Dog", "Cat", "Dog"] :=
    exists_of_generate (by decide +kernel)
  obtain ⟨out, h, htargets⟩ := hrun
  refine ⟨out, h, htargets, (discriminators_of_generate h).mpr fun n hn => .inl ?_⟩
  rw [htargets] at hn
  revert n
  decide +kernel

/-- A pointer to a schema that there is not is taken for the name of a model all the same. -/
theorem dangling_target : ∃ out,
    generate (.pets [("cat", "#/components/schemas/Cat"),
      ("tiger", "#/components/schemas/Tiger")]) .jaxrsSpec {} = .ok out ∧
    ∃ n ∈ out.targets, ∀ m ∈ out.models, m.name.pascalCase ≠ n := by
  have hrun : ∃ out, generate (.pets [("cat", "#/components/schemas/Cat"),
      ("tiger", "#/components/schemas/Tiger")]) .jaxrsSpec {} = .ok out ∧
        (out.targets, out.models.map fun m => m.name.pascalCase) =
          (["Cat", "Tiger", "Cat", "Tiger"], ["Cat", "Dog", "Pet"]) :=
    exists_of_generate (f := fun out => (out.targets, out.models.map fun m => m.name.pascalCase))
      (by decide +kernel)
  obtain ⟨out, h, hread⟩ := hrun
  obtain ⟨htargets, hnames⟩ := Prod.mk.inj hread
  refine ⟨out, h, "Tiger", by rw [htargets]; decide, fun m hm hname => ?_⟩
  have hmem : "Tiger" ∈ out.models.map fun m => m.name.pascalCase := hname ▸ List.mem_map_of_mem hm
  rw [hnames] at hmem
  exact absurd hmem (by decide)

end ApiModel
