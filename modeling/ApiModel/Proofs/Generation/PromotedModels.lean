import ApiModel.Proofs.Generation.NamedModels
import ApiModel.Proofs.Resolution.Promoted

/-!
# The promoted models

After the models of the named schemas an output has those that have been promoted. Each of them was
promoted for a schema without a name, when a named schema or an operation was resolved: the contract
determines for which schemas models are promoted there, and in which order. In the output the model
may have a number behind its name, and refers to what was promoted with it by the new names of this.

## Main definitions

* `Contract.promotedModels`: the models after those of the named schemas.
* `Contract.Promotes`: the models that are promoted for schemas where something is resolved.
* `Contract.IsPromotedFor`: a model in an output is promoted for a schema.

## Main results

* `isPromotedFor_of_generate`: the promoted models.
* `Contract.IsPromotedFor.exists_form`: such a model says what the form of its schema says.
-/

namespace ApiModel

/-- The models of an output that come after those of the named schemas. -/
def Contract.promotedModels (c : Contract) (out : TargetModel) : List Model :=
  out.models.drop c.components.schemas.length

theorem Contract.namedModels_append_promotedModels (c : Contract) (out : TargetModel) :
    c.namedModels out ++ c.promotedModels out = out.models :=
  List.take_append_drop _ _

/-! ### What is promoted for a contract -/

/-- When a named schema or an operation of a contract is resolved, models are promoted for the
schemas that the contract asks for there, one for each. -/
inductive Contract.Promotes (c : Contract) (p : Profile) (flags : Flags) :
    List Schema → List Model → Prop
  | component {name : String} {node : SchemaNode} {form : ModelForm} {schemas : List Schema}
      {m : Model} {promoted : List Model} (hmem : (name, node) ∈ c.components.schemas)
      (hform : c.components.componentForm name node = .ok form)
      (hschemas : c.components.Promotes form.nodes schemas)
      (hrun : (c.resolver p flags).run ((c.resolver p flags).component name node) =
        .ok (m, promoted)) : Promotes c p flags schemas promoted
  | operation {e : Endpoint} {nodes : List SchemaNode} {schemas : List Schema} {op : ApiOperation}
      {promoted : List Model} (he : e ∈ c.endpoints) (hnodes : e.Exchanges c.components nodes)
      (hschemas : c.components.Promotes nodes schemas)
      (hrun : (c.resolver p flags).run ((c.resolver p flags).operation e) = .ok (op, promoted)) :
      Promotes c p flags schemas promoted

namespace Contract.Promotes

variable {c : Contract} {p : Profile} {flags : Flags} {schemas : List Schema}
  {promoted : List Model}

/-- Each model is built of its schema. -/
theorem modelsOf (h : c.Promotes p flags schemas promoted) :
    (c.resolver p flags).ModelsOf schemas promoted := by
  cases h with
  | component hmem hform hschemas hrun =>
    obtain ⟨form, schemas', hform', hschemas', hmodels⟩ := Resolver.modelsOf_of_component hrun
    obtain rfl := Except.ok.inj (hform.symm.trans hform')
    rwa [hschemas.unique hschemas']
  | operation he hnodes hschemas hrun =>
    obtain ⟨nodes, schemas', hnodes', hschemas', hmodels⟩ := Resolver.modelsOf_of_operation hrun
    obtain rfl := hnodes.unique hnodes'
    rwa [hschemas.unique hschemas']

/-- The schemas stand in the contract. -/
theorem stands (h : c.Promotes p flags schemas promoted) : ∀ s ∈ schemas, c.Stands (.inline s) := by
  have hclosed : c.components.Closed c.Stands := c.closed_stands
  cases h with
  | component hmem hform hschemas =>
    have hwithin : ModelForm.Within c.Stands _ := hclosed.componentForm (hclosed.named hmem) hform
    exact hschemas.within hclosed (hwithin.forall_nodes hclosed)
  | operation he hnodes hschemas =>
    exact hschemas.within hclosed (hnodes.within hclosed fun node hnode => .operation he hnode)

end Contract.Promotes

/-! ### Promoted models in an output -/

/-- A model in an output is promoted for a schema: it is what has been promoted for the schema in
some place of the contract, by its own name or by this with a number behind it, under new names of
what it refers to. -/
inductive Contract.IsPromotedFor (c : Contract) (p : Profile) (flags : Flags) (s : Schema) :
    Model → Prop
  | mk {schemas : List Schema} {promoted : List Model} {i : Nat} {m m' : Model} {ρ : Renames}
      {imports : List String} (hpromotes : c.Promotes p flags schemas promoted)
      (hs : schemas[i]? = some s) (hm : promoted[i]? = some m)
      (hnamed : m' = m ∨ ∃ n, m' = m.named (Allocator.numbered m.name.pascalCase n))
      (hspares : ρ.Spares c.components.modelNames) :
      IsPromotedFor c p flags s { ρ.model p m' with imports }

namespace Contract.IsPromotedFor

variable {c : Contract} {p : Profile} {flags : Flags} {s : Schema} {m : Model}

theorem stands (h : c.IsPromotedFor p flags s m) : c.Stands (.inline s) := by
  obtain ⟨hpromotes, hs, -, -, -⟩ := h
  exact hpromotes.stands s (List.mem_of_getElem? hs)

theorem imported (h : c.IsPromotedFor p flags s m) (imports : List String) :
    c.IsPromotedFor p flags s { m with imports } := by
  obtain ⟨hpromotes, hs, hm, hnamed, hspares⟩ := h
  exact .mk hpromotes hs hm hnamed hspares

/-- What holds of a model that is built of the schema and stays true under new names holds of the
model in the output. -/
theorem exists_holds {Q : ModelForm → Model → Prop}
    (hbuilt : ∀ {shape location form m st st'},
      ((c.resolver p flags).modelOf shape { name := m.name, description := s.description }
        m.name.pascalCase location form).outcome st = (.ok m, st') → Q form m)
    (hnamed : ∀ {form m} name, Q form m → Q form (m.named name))
    (hrenamed : ∀ {form m ρ}, Renames.Spares ρ c.components.modelNames → Q form m →
      Q form (ρ.model p m))
    (himported : ∀ {form m} imports, Q form m → Q form { m with imports })
    (h : c.IsPromotedFor p flags s m) : ∃ origin location form,
      c.components.modelForm origin location s = .ok form ∧ Q form m := by
  obtain ⟨hpromotes, hs, hm, hname, hspares⟩ := h
  obtain ⟨n, location, st, st', hout, -⟩ := hpromotes.modelsOf.exists_built hs hm
  rw [Resolver.buildModel_eq] at hout
  obtain ⟨form, hform, hout⟩ := Resolving.exists_of_outcome_lift_bind hout
  refine ⟨_, location, form, hform, himported _ (hrenamed hspares ?_)⟩
  rcases hname with rfl | ⟨_, rfl⟩
  · exact hbuilt hout
  · exact hnamed _ (hbuilt hout)

/-- A promoted model says what the form of its schema says. -/
theorem exists_form (h : c.IsPromotedFor p flags s m) : ∃ origin location form,
    c.components.modelForm origin location s = .ok form ∧ form.Describes c.components m :=
  h.exists_holds (fun hout => .of_modelOf hout) (fun name h => h.named name)
    (fun hρ h => h.renamed hρ p) fun imports h => h.imported imports

end Contract.IsPromotedFor

section Output

variable {c : Contract} {p : Profile} {flags : Flags} {out : TargetModel}

/-- What is adopted when models are promoted for schemas is promoted for these. -/
theorem isPromotedFor_of_adopt {reg : Registry} (hreg : reg.Sound c.components.schemaNames)
    (hentries : ∀ e ∈ reg.entries, ∃ s, c.IsPromotedFor p flags s e.2) {schemas : List Schema}
    {promoted : List Model} (h : c.Promotes p flags schemas promoted) :
    ∀ e ∈ (reg.adopt p promoted).2.entries, ∃ s, c.IsPromotedFor p flags s e.2 := by
  have hspares : (reg.adopt p promoted).1.Spares c.components.modelNames :=
    hreg.spares_adopt p promoted
  intro e he
  rcases hreg.mem_entries_adopt he with he | ⟨m, hm, hname⟩
  · exact hentries e he
  obtain ⟨i, hi⟩ := List.getElem?_of_mem hm
  obtain ⟨s, hs⟩ : ∃ s, schemas[i]? = some s := by
    have hlt := (List.getElem?_eq_some_iff.mp hi).1
    exact ⟨_, List.getElem?_eq_getElem (h.modelsOf.length_eq ▸ hlt)⟩
  refine ⟨s, ?_⟩
  rcases hname with rfl | ⟨⟨n, hnumbered⟩, hnamed⟩
  · exact .mk h hs hi (.inl rfl) hspares
  · rw [hnamed, hnumbered]
    exact .mk h hs hi (.inr ⟨n, rfl⟩) hspares

/-- Every step of the generation takes models that are promoted for schemas of the contract. -/
def promotionLaw (c : Contract) (p : Profile) (flags : Flags) : GenerationLaw c p flags where
  registry reg := reg.Sound c.components.schemaNames ∧
    ∀ e ∈ reg.entries, ∃ s, c.IsPromotedFor p flags s e.2
  model _ _ := True
  operation _ _ := True
  initial := ⟨Registry.sound_initial _, by simp [Registry.initial]⟩
  model_mono _ h := h
  operation_mono _ h := h
  component hmem hreg hrun := by
    obtain ⟨form, schemas, hform, hschemas, -⟩ := Resolver.modelsOf_of_component hrun
    exact ⟨⟨hreg.1.adopt p _, isPromotedFor_of_adopt hreg.1 hreg.2
      (.component hmem hform hschemas hrun)⟩, trivial⟩
  endpoint he hreg hrun := by
    obtain ⟨nodes, schemas, hnodes, hschemas, -⟩ := Resolver.modelsOf_of_operation hrun
    exact ⟨⟨hreg.1.adopt p _, isPromotedFor_of_adopt hreg.1 hreg.2
      (.operation he hnodes hschemas hrun)⟩, fun _ => trivial⟩

/-- The models that come after those of the named schemas are promoted for schemas. -/
theorem isPromotedFor_of_generate (h : generate c p flags = .ok out) :
    ∀ m ∈ c.promotedModels out, ∃ s, c.IsPromotedFor p flags s m := by
  obtain ⟨reg, models, hreg, hout, hnames, -⟩ := (promotionLaw c p flags).holds h
  have hlength : c.components.schemas.length = models.length := by
    simpa [Components.schemaNames] using (congrArg List.length hnames).symm
  intro m hm
  rw [Contract.promotedModels, hout, hlength, ← List.map_drop, List.drop_left] at hm
  obtain ⟨m', hm', rfl⟩ := List.mem_map.mp hm
  obtain ⟨e, he, rfl⟩ := List.mem_map.mp hm'
  obtain ⟨s, hs⟩ := hreg.2 e he
  exact ⟨s, hs.imported _⟩

end Output

end ApiModel
