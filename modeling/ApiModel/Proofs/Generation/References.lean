import ApiModel.Proofs.Generation.Output

/-!
# The references in the output

What is generated for a model goes by the name of the model in `PascalCase`. A reference to a named
schema is in that case. A reference to a promoted model is the name that was given out for it, which
need not be: a name made of the letters `A` and `B` is given out as `AB`, and its words are cased as
`Ab`. So a reference leads to a model when it is in `PascalCase` itself, and otherwise only when some
other model happens to go by it.

## Main definitions

* `Registry.Leads`: what holds of a reference, given a registry.
* `referencesLaw`: every step of the generation keeps it.

## Main results

* `references_lead_iff`: when the references of an output lead to its models.
* `dangling_reference`: a contract for which they do not.
-/

namespace ApiModel

theorem ApiOperation.references_named (op : ApiOperation) (name : String) :
    (op.named name).references = op.references := by
  rw [named]
  split <;> rfl

/-- Given a registry, a reference names a named schema or, if it is in `PascalCase`, a model that has
been taken. -/
def Registry.Leads (schemaNames : List String) (reg : Registry) (name : String) : Prop :=
  name ∈ modelNames schemaNames ∨ ((Name.ofText name).pascalCase = name → name ∈ reg.keys)

/-- The name of a taken model is cased by its text, and is known by its case or by its text. -/
structure Registry.NamedEntry (e : String × Model) : Prop where
  cased : e.2.name = Name.ofText e.2.name.text
  key : e.2.name.pascalCase = e.1 ∨ e.2.name = Name.ofText e.1

namespace Registry

variable {reg : Registry} {p : Profile} {schemaNames : List String} {promoted : List Model}

theorem Leads.adopt {name : String} (h : reg.Leads schemaNames name) (p : Profile)
    (promoted : List Model) : (reg.adopt p promoted).2.Leads schemaNames name :=
  h.imp_right fun hkey hcase => reg.keys_subset_adopt p promoted (hkey hcase)

/-- A model in `PascalCase` that has been taken goes by its name. -/
theorem NamedEntry.pascalCase_eq {e : String × Model} (h : NamedEntry e)
    (hcase : (Name.ofText e.1).pascalCase = e.1) : e.2.name.pascalCase = e.1 :=
  h.key.elim id fun hname => by rw [hname, hcase]

/-- The names of the models that are taken stay cased by their text. -/
theorem Sound.namedEntry_adopt (h : reg.Sound schemaNames)
    (hreg : ∀ e ∈ reg.entries, NamedEntry e)
    (hpromoted : ∀ m ∈ promoted, m.name = Name.ofText m.name.text) :
    ∀ e ∈ (reg.adopt p promoted).2.entries, NamedEntry e := by
  intro e he
  rcases h.mem_entries_adopt he with he | ⟨m, hm, rfl | ⟨-, hnamed⟩⟩
  · exact hreg e he
  · exact ⟨by rw [Renames.name_model]; exact hpromoted m hm,
      .inl (by rw [Renames.name_model])⟩
  · have hname : e.2.name = Name.ofText e.1 := by rw [hnamed, Renames.name_model, Model.named]
    exact ⟨by rw [hname, Name.text_ofText], .inr hname⟩

/-- Taking models leaves a name as it is, or sends it to one under which a model has been taken. -/
theorem Sound.of_eq_or_leads (h : reg.Sound schemaNames) (p : Profile) (promoted : List Model)
    (name : String) :
    (reg.adopt p promoted).1.of name = name ∨
      (reg.adopt p promoted).2.Leads schemaNames ((reg.adopt p promoted).1.of name) := by
  rw [Leads, keys_adopt, adopt_fst, Renames.of]
  rcases hlookup : (reg.adoption p promoted).renames.lookup name with _ | fresh
  · exact .inl rfl
  · exact .inr (.inr fun _ =>
      ((h.adoption p promoted).renames _ (mem_of_lookup_eq_some hlookup)).2)

/-- A reference to something known leads on when it has followed the new names. -/
theorem Sound.leads_of_known {r : Resolver} (h : reg.Sound r.components.schemaNames)
    (hpromoted : ∀ m ∈ promoted, m.name = Name.ofText m.name.text) {name : String}
    (hname : r.Known promoted name) :
    (reg.adopt p promoted).2.Leads r.components.schemaNames
      ((reg.adopt p promoted).1.of name) := by
  rcases h.of_eq_or_leads p promoted name with hself | hleads
  · rw [hself]
    rcases hname with hmodel | ⟨m, hm, rfl⟩
    · exact .inl (Resolver.mem_modelNames_of_isModelName hmodel)
    · refine .inr fun hcase => ?_
      have hpascal : m.name.pascalCase = m.name.text := by rw [hpromoted m hm]; exact hcase
      rw [keys_adopt, ← hpascal]
      exact (h.adoption p promoted).found m hm
  · exact hleads

/-- What holds of the registry: its entries are named as they should be, and whatever they refer to
leads on. -/
structure Referring (schemaNames : List String) (reg : Registry) : Prop
    extends reg.Sound schemaNames where
  named : ∀ e ∈ reg.entries, NamedEntry e
  leads : ∀ e ∈ reg.entries, ∀ n ∈ e.2.references, reg.Leads schemaNames n

theorem referring_initial (schemaNames : List String) :
    (initial schemaNames).Referring schemaNames where
  toSound := sound_initial schemaNames
  named := by simp [initial]
  leads := by simp [initial]

/-- What promoted models refer to leads on when they have been taken. -/
theorem Referring.adopt {r : Resolver} (h : reg.Referring r.components.schemaNames)
    (hpromoted : r.referenceLaw.Promoted promoted) :
    (reg.adopt p promoted).2.Referring r.components.schemaNames where
  toSound := h.toSound.adopt p promoted
  named := h.namedEntry_adopt h.named hpromoted.name_eq_ofText
  leads e he n hn := by
    have hleads (m : Model) (hm : m ∈ promoted)
        (hn : n ∈ m.references.map (reg.adopt p promoted).1.of) :
        (reg.adopt p promoted).2.Leads r.components.schemaNames n := by
      obtain ⟨name, hname, rfl⟩ := List.mem_map.mp hn
      exact h.leads_of_known hpromoted.name_eq_ofText
        ((Resolver.inOrder_of_promoted hpromoted).known m hm name hname)
    rcases h.mem_entries_adopt he with he | ⟨m, hm, rfl | ⟨-, hnamed⟩⟩
    · exact (h.leads e he n hn).adopt p promoted
    · rw [Renames.references_model] at hn
      exact hleads m hm hn
    · rw [hnamed, Renames.references_model, Model.references_named] at hn
      exact hleads m hm hn

end Registry

/-! ### Every step of the generation -/

/-- Every step of the generation keeps what holds of the references. -/
def referencesLaw (c : Contract) (p : Profile) (flags : Flags) : GenerationLaw c p flags where
  registry reg := reg.Referring c.components.schemaNames
  model reg m := ∀ n ∈ m.references, reg.Leads c.components.schemaNames n
  operation reg op := ∀ n ∈ op.references, reg.Leads c.components.schemaNames n
  initial := Registry.referring_initial _
  model_mono promoted h n hn := (h n hn).adopt p promoted
  operation_mono promoted h n hn := (h n hn).adopt p promoted
  component _ hreg hrun := by
    obtain ⟨hm, hpromoted⟩ :=
      Resolver.Law.run_component (c.resolver p flags).referenceLaw hrun
    refine ⟨hreg.adopt hpromoted, fun n hn => ?_⟩
    rw [Renames.references_model] at hn
    obtain ⟨name, hname, rfl⟩ := List.mem_map.mp hn
    exact hreg.leads_of_known hpromoted.name_eq_ofText (hm.known_references name hname)
  endpoint _ hreg hrun := by
    obtain ⟨hop, hpromoted⟩ :=
      Resolver.Law.run_operation (c.resolver p flags).referenceLaw hrun
    refine ⟨hreg.adopt hpromoted, fun name n hn => ?_⟩
    rw [ApiOperation.references_named, Renames.references_operation] at hn
    obtain ⟨name', hname, rfl⟩ := List.mem_map.mp hn
    obtain ⟨t, ht, hname⟩ := List.mem_flatMap.mp hname
    exact hreg.leads_of_known hpromoted.name_eq_ofText
      (hop.forall_collect hollow_modelName t ht name' hname)

/-! ### The output -/

section Output

variable {c : Contract} {p : Profile} {flags : Flags} {out : TargetModel}

/-- The names of all models in the output are cased by their texts. -/
theorem name_eq_ofText_of_generate (h : generate c p flags = .ok out) :
    ∀ m ∈ out.models, m.name = Name.ofText m.name.text := by
  obtain ⟨reg, models, hreg, hout, hnames, -, -⟩ := (referencesLaw c p flags).holds h
  intro m hm
  rw [hout] at hm
  obtain ⟨m', hm', rfl⟩ := List.mem_map.mp hm
  rcases List.mem_append.mp hm' with hm' | hm'
  · have hname : m'.name ∈ c.components.schemaNames.map Name.ofText :=
      hnames ▸ List.mem_map_of_mem hm'
    obtain ⟨text, -, htext⟩ := List.mem_map.mp hname
    dsimp only
    rw [← htext, Name.text_ofText]
  · obtain ⟨e, he, rfl⟩ := List.mem_map.mp hm'
    exact (hreg.named e he).cased

/-- A reference to a named schema leads to its model. -/
theorem exists_model_of_mem_modelNames (h : generate c p flags = .ok out) {n : String}
    (hn : n ∈ c.components.modelNames) : ∃ m ∈ out.models, m.name.pascalCase = n := by
  obtain ⟨reg, models, -, hout, hnames, -, -⟩ := (referencesLaw c p flags).holds h
  obtain ⟨text, htext, hpascal⟩ := List.mem_map.mp hn
  have hname : Name.ofText text ∈ models.map Model.name := hnames ▸ List.mem_map_of_mem htext
  obtain ⟨m, hm, hm'⟩ := List.mem_map.mp hname
  refine ⟨{ m with imports := p.modelImports m }, ?_, by rw [← hpascal, ← hm']⟩
  rw [hout]
  exact List.mem_map.mpr ⟨m, List.mem_append_left _ hm, rfl⟩

/-- What leads on and is in `PascalCase` leads to a model. -/
theorem exists_model_of_leads (h : generate c p flags = .ok out) {reg : Registry}
    (hreg : ∀ e ∈ reg.entries, Registry.NamedEntry e)
    (hentries : ∀ e ∈ reg.entries, { e.2 with imports := p.modelImports e.2 } ∈ out.models)
    {n : String} (hleads : reg.Leads c.components.schemaNames n)
    (hcase : (Name.ofText n).pascalCase = n) : ∃ m ∈ out.models, m.name.pascalCase = n := by
  rcases hleads with hschema | hkey
  · exact exists_model_of_mem_modelNames h hschema
  · obtain ⟨e, he, rfl⟩ := List.mem_map.mp (hkey hcase)
    exact ⟨_, hentries e he, (hreg e he).pascalCase_eq hcase⟩

/-- A reference in `PascalCase` leads to a model. -/
theorem exists_model_of_pascalCase (h : generate c p flags = .ok out) {n : String}
    (hn : n ∈ out.references) (hcase : (Name.ofText n).pascalCase = n) :
    ∃ m ∈ out.models, m.name.pascalCase = n := by
  obtain ⟨reg, hreg, hleads, hentries⟩ := (referencesLaw c p flags).holds_read
    Model.references ApiOperation.references
    (Q := fun reg n => reg.Leads c.components.schemaNames n) (fun _ _ => rfl)
    (fun _ hreg => hreg.leads) (fun _ _ hm => hm) (fun _ _ hop => hop) h
  exact exists_model_of_leads h hreg.named hentries (hleads n hn) hcase

/-- A reference leads to a model exactly when it is that to a named schema, or is in `PascalCase`, or
a model of another text happens to go by it. -/
theorem exists_model_iff (h : generate c p flags = .ok out) {n : String}
    (hn : n ∈ out.references) :
    (∃ m ∈ out.models, m.name.pascalCase = n) ↔
      n ∈ c.components.modelNames ∨ (Name.ofText n).pascalCase = n ∨
        ∃ m ∈ out.models, m.name.text ≠ n ∧ m.name.pascalCase = n := by
  constructor
  · rintro ⟨m, hm, hname⟩
    by_cases htext : m.name.text = n
    · rw [name_eq_ofText_of_generate h m hm, htext] at hname
      exact .inr (.inl hname)
    · exact .inr (.inr ⟨m, hm, htext, hname⟩)
  · rintro (hschema | hcase | ⟨m, hm, -, hname⟩)
    · exact exists_model_of_mem_modelNames h hschema
    · exact exists_model_of_pascalCase h hn hcase
    · exact ⟨m, hm, hname⟩

/-- All references of an output lead to models exactly when each of them is that to a named schema,
or is in `PascalCase`, or a model of another text happens to go by it. -/
theorem references_lead_iff (h : generate c p flags = .ok out) :
    (∀ n ∈ out.references, ∃ m ∈ out.models, m.name.pascalCase = n) ↔
      ∀ n ∈ out.references, n ∈ c.components.modelNames ∨ (Name.ofText n).pascalCase = n ∨
        ∃ m ∈ out.models, m.name.text ≠ n ∧ m.name.pascalCase = n :=
  forall₂_congr fun _ hn => exists_model_iff h hn

end Output

/-! ### An object in an object -/

/-- A contract with one named object schema, which has one property, which is an object without a
name. -/
def Contract.nested (schema property : String) : Contract where
  version := "3.0.3"
  info := { title := "nested", version := "1" }
  components :=
    { schemas :=
        [(schema, .inline
          { type := some (.single .object)
            properties := [(property, .inline
              { type := some (.single .object)
                properties := [("value", .inline { type := some (.single .string) })] })] })] }

/-- Words of more than one letter make names in `PascalCase`, to which references lead. -/
theorem references_lead_to_petOwner : ∃ out, generate (.nested "Pet" "owner") .jaxrsSpec {} = .ok out ∧
    out.references = ["PetOwner"] ∧
    ∀ n ∈ out.references, ∃ m ∈ out.models, m.name.pascalCase = n := by
  have hrun : (generate (.nested "Pet" "owner") .jaxrsSpec {}).toOption.map
      TargetModel.references = some ["PetOwner"] := by decide +kernel
  rcases h : generate (.nested "Pet" "owner") .jaxrsSpec {} with e | out <;> rw [h] at hrun
  · cases hrun
  · have hreferences : out.references = ["PetOwner"] := Option.some.inj hrun
    refine ⟨out, rfl, hreferences, (references_lead_iff h).mpr fun n hn => ?_⟩
    rw [hreferences] at hn
    obtain rfl := List.mem_singleton.mp hn
    exact .inr (.inl (by decide +kernel))

/-- Two words of one letter are given out as `AB`, but the model goes by `Ab`. -/
theorem dangling_reference : ∃ out, generate (.nested "A" "b") .jaxrsSpec {} = .ok out ∧
    ∃ n ∈ out.references, ∀ m ∈ out.models, m.name.pascalCase ≠ n := by
  have hrun : (generate (.nested "A" "b") .jaxrsSpec {}).toOption.map
      (fun out => (out.references, out.models.map fun m => m.name.pascalCase)) =
        some (["AB"], ["A", "Ab"]) := by decide +kernel
  rcases h : generate (.nested "A" "b") .jaxrsSpec {} with e | out <;> rw [h] at hrun
  · cases hrun
  · obtain ⟨hreferences, hnames⟩ := Prod.mk.inj (Option.some.inj hrun)
    refine ⟨out, rfl, "AB", by rw [hreferences]; exact List.mem_singleton.mpr rfl,
      fun m hm hname => ?_⟩
    have hmem : "AB" ∈ out.models.map fun m => m.name.pascalCase :=
      hname ▸ List.mem_map_of_mem hm
    rw [hnames] at hmem
    exact absurd hmem (by decide)

end ApiModel
