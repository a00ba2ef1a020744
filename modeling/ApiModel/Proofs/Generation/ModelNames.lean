import ApiModel.Proofs.Generation.References

/-!
# The names of models in the output

The models of named schemas go by the names of the schemas in `PascalCase`, and two schemas may
share one. A promoted model is given a name that no named schema and no model promoted before it
has, but goes by what this name is in `PascalCase`. Where that is the name itself, no other model
goes by it; where it is another one, some other model may have it.

## Main results

* `modelNames_of_generate`: when the names of the models in an output are distinct.
* `shared_model_name`: a contract for which they are not.
-/

namespace ApiModel

/-! ### What the registry holds -/

/-- While a list is taken, no model gets a name of which all are taken, unless it has it already. -/
theorem Adoption.notMem_foldl {reg : Registry} {p : Profile} {names : List String}
    {rest : List Model} {a : Adoption} (htaken : names ⊆ a.names.taken)
    (hrest : ∀ m ∈ rest, m.name.text ∉ names) (ha : ∀ e ∈ a.added, e.2.name.text ∉ names) :
    ∀ e ∈ (rest.foldl (Registry.adoptOne p reg.entries) a).added, e.2.name.text ∉ names := by
  induction rest generalizing a with
  | nil => exact ha
  | cons m rest ih =>
    have hm : m.name.text ∉ names := hrest m List.mem_cons_self
    have hlater (m' : Model) (hm' : m' ∈ rest) : m'.name.text ∉ names :=
      hrest m' (List.mem_cons_of_mem m hm')
    rw [List.foldl_cons]
    rcases adoptOne_cases reg p a m with ⟨-, hstep⟩ | ⟨existing, -, -, hstep⟩ | ⟨-, hstep⟩ <;>
      rw [hstep]
    · refine ih htaken hlater fun e he => ?_
      rcases List.mem_append.mp he with he | he
      · exact ha e he
      · obtain rfl := List.mem_singleton.mp he
        exact hm
    · exact ih htaken hlater ha
    · refine ih (fun n hn => List.mem_cons_of_mem _ (htaken hn)) hlater fun e he => ?_
      rcases List.mem_append.mp he with he | he
      · exact ha e he
      · obtain rfl := List.mem_singleton.mp he
        have hfree := a.names.grant_notMem m.name.pascalCase
        exact fun hmem => hfree (htaken hmem)

namespace Registry

variable {reg : Registry} {p : Profile} {schemaNames : List String} {promoted : List Model}

/-- What holds of the registry: its entries are named as they should be, under names that no named
schema has. -/
structure Naming (schemaNames : List String) (reg : Registry) : Prop
    extends reg.Sound schemaNames where
  named : ∀ e ∈ reg.entries, NamedEntry e
  other : ∀ e ∈ reg.entries, e.2.name.text ∉ modelNames schemaNames

theorem naming_initial (schemaNames : List String) : (initial schemaNames).Naming schemaNames where
  toSound := sound_initial schemaNames
  named := by simp [initial]
  other := by simp [initial]

theorem Naming.adopt (h : reg.Naming schemaNames) (p : Profile)
    (hnamed : ∀ m ∈ promoted, m.name = Name.ofText m.name.text)
    (hother : ∀ m ∈ promoted, m.name.text ∉ modelNames schemaNames) :
    (reg.adopt p promoted).2.Naming schemaNames where
  toSound := h.toSound.adopt p promoted
  named := h.namedEntry_adopt h.named hnamed
  other e he := by
    rw [entries_adopt] at he
    rcases List.mem_append.mp he with he | he
    · exact h.other e he
    · obtain ⟨e', he', rfl⟩ := List.mem_map.mp he
      have htaken : modelNames schemaNames ⊆ (reg.names.reserve ((promoted.map fun m =>
          m.name.pascalCase).filter fun name => (reg.entries.lookup name).isNone)).taken :=
        fun n hn => List.mem_append_right _ (h.named_taken hn)
      rw [Renames.name_model]
      exact Adoption.notMem_foldl htaken hother (by simp) e' he'

/-- A model that goes by its own name is known by it. -/
theorem NamedEntry.key_eq {e : String × Model} (h : NamedEntry e)
    (hcase : e.2.name.pascalCase = e.2.name.text) : e.2.name.pascalCase = e.1 := by
  rcases h.key with hkey | hname
  · exact hkey
  · rw [hcase, hname, Name.text_ofText]

/-- The models that have been taken and those of the named schemas go by distinct names exactly when
the latter do and each model that has been taken goes by its own name, unless no other goes by the
same. -/
theorem Naming.nodup_iff (h : reg.Naming schemaNames) :
    (modelNames schemaNames ++ reg.models.map fun m => m.name.pascalCase).Nodup ↔
      (modelNames schemaNames).Nodup ∧ ∀ m ∈ reg.models, m.name.pascalCase = m.name.text ∨
        (modelNames schemaNames ++ reg.models.map fun m => m.name.pascalCase).count
          m.name.pascalCase = 1 := by
  have hmem {m : Model} (hm : m ∈ reg.models) :
      m.name.pascalCase ∈ reg.models.map fun m => m.name.pascalCase := List.mem_map_of_mem hm
  constructor
  · intro hnodup
    exact ⟨(List.nodup_append.mp hnodup).1, fun m hm =>
      .inr (List.count_eq_one_of_mem hnodup (List.mem_append_right _ (hmem hm)))⟩
  rintro ⟨hnames, hmodels⟩
  have hcount {m : Model} (hm : m ∈ reg.models)
      (hone : (modelNames schemaNames ++ reg.models.map fun m => m.name.pascalCase).count
        m.name.pascalCase = 1) : m.name.pascalCase ∉ modelNames schemaNames ∧
      (reg.models.map fun m => m.name.pascalCase).count m.name.pascalCase = 1 := by
    have hpos := List.count_pos_iff.mpr (hmem hm)
    rw [List.count_append] at hone
    exact ⟨fun hname => by have := List.count_pos_iff.mpr hname; omega, by omega⟩
  refine List.nodup_append.mpr ⟨hnames, ?_, ?_⟩
  · -- the keys are distinct, and a model that goes by its own name goes by its key
    have hmodels' : (reg.models.map fun m => m.name.pascalCase) =
        reg.entries.map fun e => e.2.name.pascalCase := by
      rw [models, List.map_map]
      rfl
    rw [hmodels', nodup_map_iff_of_nodup h.nodup, ← hmodels']
    intro e he
    have hm : e.2 ∈ reg.models := List.mem_map_of_mem he
    exact (hmodels e.2 hm).imp (h.named e he).key_eq fun hone => (hcount hm hone).2
  · rintro _ hname _ hmodel rfl
    obtain ⟨m, hm, rfl⟩ := List.mem_map.mp hmodel
    rcases hmodels m hm with hcase | hone
    · obtain ⟨e, he, rfl⟩ := List.mem_map.mp hm
      exact h.other e he (hcase ▸ hname)
    · exact (hcount hm hone).1 hname

end Registry

/-- Every step of the generation keeps the names of the models that have been taken as they should
be. -/
def modelNamesLaw (c : Contract) (p : Profile) (flags : Flags) : GenerationLaw c p flags where
  registry reg := reg.Naming c.components.schemaNames
  model _ _ := True
  operation _ _ := True
  initial := Registry.naming_initial _
  model_mono _ h := h
  operation_mono _ h := h
  component _ hreg hrun := by
    obtain ⟨-, hpromoted⟩ := Resolver.Law.run_component (c.resolver p flags).referenceLaw hrun
    exact ⟨hreg.adopt p hpromoted.name_eq_ofText hpromoted.notMem_modelNames, trivial⟩
  endpoint _ hreg hrun := by
    obtain ⟨-, hpromoted⟩ := Resolver.Law.run_operation (c.resolver p flags).referenceLaw hrun
    exact ⟨hreg.adopt p hpromoted.name_eq_ofText hpromoted.notMem_modelNames, fun _ => trivial⟩

/-! ### The output -/

/-- The models in an output are those of the named schemas, followed by the promoted ones. They go
by distinct names exactly when the named schemas do and each promoted model goes by the name that
was given out for it, unless no other model goes by the same. -/
theorem modelNames_of_generate {c : Contract} {p : Profile} {flags : Flags} {out : TargetModel}
    (h : generate c p flags = .ok out) :
    ∃ components promoted, out.models = components ++ promoted ∧
      components.map Model.name = c.components.schemaNames.map Name.ofText ∧
      ((out.models.map fun m => m.name.pascalCase).Nodup ↔
        c.components.modelNames.Nodup ∧
          ∀ m ∈ promoted, m.name.pascalCase = m.name.text ∨
            (out.models.map fun m => m.name.pascalCase).count m.name.pascalCase = 1) := by
  obtain ⟨reg, models, hreg, hout, hnames, -, -⟩ := (modelNamesLaw c p flags).holds h
  set imported : Model → Model := fun m => { m with imports := p.modelImports m } with himported
  have hshown : (out.models.map fun m => m.name.pascalCase) =
      Registry.modelNames c.components.schemaNames ++
        reg.models.map fun m => m.name.pascalCase := by
    have hcomponents : (models.map fun m => m.name.pascalCase) =
        Registry.modelNames c.components.schemaNames := by
      have hcased := congrArg (List.map Name.pascalCase) hnames
      rwa [List.map_map, List.map_map] at hcased
    rw [hout, List.map_map, List.map_append, ← hcomponents]
    rfl
  refine ⟨models.map imported, reg.models.map imported, ?_, ?_, ?_⟩
  · rw [hout, List.map_append]
  · rw [List.map_map]
    exact hnames
  · rw [hshown, hreg.nodup_iff]
    refine and_congr_right fun _ => ?_
    rw [List.forall_mem_map]

/-- A promoted model that goes by the name that was given out for it shares it with no other. -/
theorem modelNames_of_petOwner : ∃ out, generate (.nested "Pet" "owner") .jaxrsSpec {} = .ok out ∧
    (out.models.map fun m => m.name.pascalCase) = ["Pet", "PetOwner"] ∧
    (out.models.map fun m => m.name.pascalCase).Nodup := by
  have hrun : ∃ out, generate (.nested "Pet" "owner") .jaxrsSpec {} = .ok out ∧
      (out.models.map fun m => (m.name.text, m.name.pascalCase)) =
        [("Pet", "Pet"), ("PetOwner", "PetOwner")] := exists_of_generate (by decide +kernel)
  obtain ⟨out, h, hnames⟩ := hrun
  obtain ⟨components, promoted, hout, -, hnodup⟩ := modelNames_of_generate h
  have hown (m : Model) (hm : m ∈ out.models) : m.name.pascalCase = m.name.text := by
    have hmem : (m.name.text, m.name.pascalCase) ∈
        out.models.map fun m => (m.name.text, m.name.pascalCase) := List.mem_map_of_mem hm
    rw [hnames] at hmem
    rcases List.mem_pair.mp hmem with heq | heq
    · exact (Prod.mk.inj heq).2.trans (Prod.mk.inj heq).1.symm
    · exact (Prod.mk.inj heq).2.trans (Prod.mk.inj heq).1.symm
  refine ⟨out, h, ?_, hnodup.mpr ⟨by decide +kernel, fun m hm => .inl (hown m ?_)⟩⟩
  · have hcased := congrArg (List.map Prod.snd) hnames
    rwa [List.map_map] at hcased
  · rw [hout]
    exact List.mem_append_right _ hm

/-- An object schema `A` has a property `b`, which is an object without a name, and stands beside a
schema `Ab`. -/
def nestedBeside : List (String × SchemaNode) :=
  [("A", .objectWith "b" (.objectWith "value" .text)), ("Ab", .objectWith "name" .text)]

/-- The property `b` of `A` is promoted under the name `AB`, which is free, but its model goes by
`Ab`, as that of a named schema does. -/
theorem shared_model_name : ∃ out,
    generate (.ofSchemas nestedBeside) .jaxrsSpec {} = .ok out ∧
    (out.models.map fun m => m.name.pascalCase) = ["A", "Ab", "Ab"] ∧
    ¬(out.models.map fun m => m.name.pascalCase).Nodup := by
  have hrun : ∃ out, generate (.ofSchemas nestedBeside) .jaxrsSpec {} = .ok out ∧
      (out.models.map fun m => m.name.pascalCase) = ["A", "Ab", "Ab"] :=
    exists_of_generate (by decide +kernel)
  obtain ⟨out, h, hnames⟩ := hrun
  exact ⟨out, h, hnames, by rw [hnames]; decide⟩

end ApiModel
