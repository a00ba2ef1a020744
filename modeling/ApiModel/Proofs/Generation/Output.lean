import ApiModel.Generation.Generate
import ApiModel.Proofs.Generation.Adoption
import ApiModel.Proofs.Generation.Grouping
import ApiModel.Proofs.Resolution.Session

/-!
# What reaches the output

Every named schema and every operation is resolved on its own, and what it promotes goes through the
registry. To show something of the output one shows what every step keeps: when an answer of a
resolver is taken with the models that it promotes, the registry stays as it should be, and the
answer under its new names is as it should be. It then holds of the whole output.

## Main definitions

* `Contract.assemble`: the output that is made of what has been resolved.
* `GenerationLaw`: what every step keeps.
* `Contract.ofSchemas`: a contract with named schemas only.

## Main results

* `generate_eq_ok_iff`: when generating succeeds, and with which output.
* `GenerationLaw.holds`, `GenerationLaw.holds_each`: what every step keeps holds of the output.
-/

namespace ApiModel

/-! ### What every step keeps -/

/-- The resolver of a contract. -/
def Contract.resolver (c : Contract) (p : Profile) (flags : Flags) : Resolver where
  components := c.components
  profile := p
  flags := flags

/-- The operations of a contract as they are taken, after the models of its named schemas. -/
def Contract.taken (c : Contract) (p : Profile) (built : List (Model × List Model))
    (ops : List (ApiOperation × List Model)) : List ApiOperation × Registry :=
  takeOperations p (takeModels p (.initial c.components.schemaNames) built).2 .empty ops

/-- The output that is made of what has been resolved. -/
def Contract.assemble (c : Contract) (p : Profile) (flags : Flags)
    (built : List (Model × List Model)) (ops : List (ApiOperation × List Model)) : TargetModel where
  info := c.info
  servers := c.servers
  target := p.id
  flags := flags
  models := ((takeModels p (.initial c.components.schemaNames) built).1 ++
    (c.taken p built ops).2.models).map fun m => { m with imports := p.modelImports m }
  groups := (groupOperations p (c.taken p built ops).1).map fun g =>
    { g with imports := p.groupImports g }

/-- Generating succeeds exactly when all named schemas and all operations are resolved, and then
assembles what has been resolved. -/
theorem generate_eq_ok_iff {c : Contract} {p : Profile} {flags : Flags} {out : TargetModel} :
    generate c p flags = .ok out ↔ ∃ built ops, (c.resolver p flags).builtModels = .ok built ∧
      (c.resolver p flags).builtOperations c.endpoints = .ok ops ∧
      out = c.assemble p flags built ops := by
  constructor
  · intro h
    simp only [generate, bind, Except.bind, pure, Except.pure] at h
    split at h
    · cases h
    next built hbuilt =>
      split at h
      · cases h
      next ops hops =>
        cases h
        exact ⟨built, ops, hbuilt, hops, rfl⟩
  · rintro ⟨built, ops, hbuilt, hops, rfl⟩
    rw [Contract.resolver] at hbuilt hops
    simp only [generate, bind, Except.bind, pure, Except.pure, hbuilt, hops]
    rfl

/-- When something is read off an output, there is one. -/
theorem exists_of_generate {α : Type} {c : Contract} {p : Profile} {flags : Flags}
    {f : TargetModel → α} {a : α} (h : (generate c p flags).toOption.map f = some a) :
    ∃ out, generate c p flags = .ok out ∧ f out = a := by
  rcases hrun : generate c p flags with e | out <;> rw [hrun] at h
  · cases h
  · exact ⟨out, rfl, Option.some.inj h⟩

/-- What every step of the generation keeps. -/
structure GenerationLaw (c : Contract) (p : Profile) (flags : Flags) where
  /-- What holds of the registry. -/
  registry : Registry → Prop
  /-- What holds of the model of a named schema, given the registry. -/
  model : Registry → Model → Prop
  /-- What holds of an operation, given the registry. -/
  operation : Registry → ApiOperation → Prop
  initial : registry (.initial c.components.schemaNames)
  model_mono {reg : Registry} {m : Model} (promoted : List Model) :
    model reg m → model (reg.adopt p promoted).2 m
  operation_mono {reg : Registry} {op : ApiOperation} (promoted : List Model) :
    operation reg op → operation (reg.adopt p promoted).2 op
  component {reg : Registry} {name : String} {node : SchemaNode} {m : Model}
    {promoted : List Model} : (name, node) ∈ c.components.schemas → registry reg →
    (c.resolver p flags).run ((c.resolver p flags).component name node) = .ok (m, promoted) →
    registry (reg.adopt p promoted).2 ∧
      model (reg.adopt p promoted).2 ((reg.adopt p promoted).1.model p m)
  endpoint {reg : Registry} {e : Endpoint} {op : ApiOperation} {promoted : List Model} :
    e ∈ c.endpoints → registry reg →
    (c.resolver p flags).run ((c.resolver p flags).operation e) = .ok (op, promoted) →
    registry (reg.adopt p promoted).2 ∧ ∀ name,
      operation (reg.adopt p promoted).2 (((reg.adopt p promoted).1.operation p op).named name)

/-- What taking a list of promoted models keeps, taking models with what they promote keeps. -/
theorem registry_takeModels {p : Profile} {Q : Registry → Prop}
    (hQ : ∀ reg promoted, Q reg → Q (reg.adopt p promoted).2) {reg : Registry}
    (built : List (Model × List Model)) (h : Q reg) : Q (takeModels p reg built).2 := by
  induction built generalizing reg with
  | nil => exact h
  | cons b rest ih => exact ih (hQ reg b.2 h)

/-- What taking a list of promoted models keeps, taking operations with what they promote keeps. -/
theorem registry_takeOperations {p : Profile} {Q : Registry → Prop}
    (hQ : ∀ reg promoted, Q reg → Q (reg.adopt p promoted).2) {reg : Registry} {names : Allocator}
    (built : List (ApiOperation × List Model)) (h : Q reg) :
    Q (takeOperations p reg names built).2 := by
  induction built generalizing reg names with
  | nil => exact h
  | cons b rest ih => exact ih (hQ reg b.2 h)

namespace GenerationLaw

variable {c : Contract} {p : Profile} {flags : Flags} (L : GenerationLaw c p flags)

/-- The models of named schemas are taken one after the other. -/
theorem takeModels_holds {reg : Registry} {built : List (Model × List Model)}
    (hbuilt : ∀ b ∈ built, ∃ e ∈ c.components.schemas,
      (c.resolver p flags).run ((c.resolver p flags).component e.1 e.2) = .ok b)
    (hreg : L.registry reg) :
    L.registry (takeModels p reg built).2 ∧
      ∀ m ∈ (takeModels p reg built).1, L.model (takeModels p reg built).2 m := by
  induction built generalizing reg with
  | nil => exact ⟨hreg, by simp [takeModels]⟩
  | cons b rest ih =>
    obtain ⟨e, he, hrun⟩ := hbuilt b List.mem_cons_self
    obtain ⟨hadopt, hmodel⟩ := L.component he hreg hrun
    obtain ⟨hregistry, hmodels⟩ := ih (fun b' hb' => hbuilt b' (List.mem_cons_of_mem b hb')) hadopt
    refine ⟨hregistry, fun m hm => ?_⟩
    rcases List.mem_cons.mp hm with rfl | hm
    · exact registry_takeModels (Q := fun reg => L.model reg _)
        (fun _ promoted => L.model_mono promoted) rest hmodel
    · exact hmodels m hm

/-- Operations are taken one after the other. -/
theorem takeOperations_holds {reg : Registry} {names : Allocator}
    {built : List (ApiOperation × List Model)}
    (hbuilt : ∀ b ∈ built, ∃ e ∈ c.endpoints,
      (c.resolver p flags).run ((c.resolver p flags).operation e) = .ok b)
    (hreg : L.registry reg) :
    L.registry (takeOperations p reg names built).2 ∧
      ∀ op ∈ (takeOperations p reg names built).1,
        L.operation (takeOperations p reg names built).2 op := by
  induction built generalizing reg names with
  | nil => exact ⟨hreg, by simp [takeOperations]⟩
  | cons b rest ih =>
    obtain ⟨e, he, hrun⟩ := hbuilt b List.mem_cons_self
    obtain ⟨hadopt, hop⟩ := L.endpoint he hreg hrun
    obtain ⟨hregistry, hops⟩ := ih (fun b' hb' => hbuilt b' (List.mem_cons_of_mem b hb')) hadopt
    refine ⟨hregistry, fun op hmem => ?_⟩
    rcases List.mem_cons.mp hmem with rfl | hmem
    · exact registry_takeOperations (Q := fun reg => L.operation reg _)
        (fun _ promoted => L.operation_mono promoted) rest (hop _)
    · exact hops op hmem

end GenerationLaw

/-! ### The output -/

theorem takeModels_names (p : Profile) (reg : Registry) (built : List (Model × List Model)) :
    (takeModels p reg built).1.map Model.name = built.map fun b => b.1.name := by
  induction built generalizing reg with
  | nil => rfl
  | cons b rest ih =>
    obtain ⟨m, promoted⟩ := b
    simp only [takeModels, List.map_cons, Renames.name_model, ih]

/-- The models of named schemas have their names. -/
theorem names_of_run_component {r : Resolver} {entries : List (String × SchemaNode)}
    {built : List (Model × List Model)}
    (h : List.Forall₂ (fun e b => r.run (r.component e.1 e.2) = .ok b) entries built) :
    (built.map fun b => b.1.name) = entries.map fun e => Name.ofText e.1 := by
  induction h with
  | nil => rfl
  | cons hrun _ ih =>
    rw [List.map_cons, List.map_cons, ih,
      (Resolver.Law.run_component r.referenceLaw hrun).1.name_eq]

/-- What every step keeps holds of the output: of the models of the named schemas, of the registry
from which the others come, and of the operations. -/
theorem GenerationLaw.holds {c : Contract} {p : Profile} {flags : Flags}
    (L : GenerationLaw c p flags) {out : TargetModel} (h : generate c p flags = .ok out) :
    ∃ reg models, L.registry reg ∧
      out.models = (models ++ reg.models).map (fun m => { m with imports := p.modelImports m }) ∧
      models.map Model.name = c.components.schemaNames.map Name.ofText ∧
      (∀ m ∈ models, L.model reg m) ∧ ∀ op ∈ out.operations, L.operation reg op := by
  obtain ⟨built, ops, hbuilt, hops, rfl⟩ := generate_eq_ok_iff.mp h
  have hmodels := forall₂_of_mapM_ok hbuilt
  obtain ⟨hreg, hmodel⟩ := L.takeModels_holds (fun _ hb => exists_of_forall₂ hmodels hb) L.initial
  obtain ⟨hreg', hop⟩ := L.takeOperations_holds
    (fun _ hb => exists_of_forall₂ (forall₂_of_mapM_ok hops) hb) hreg
  refine ⟨_, _, hreg', rfl, ?_, fun m hm => ?_, ?_⟩
  · rw [takeModels_names, Components.schemaNames, List.map_map]
    exact names_of_run_component hmodels
  · exact registry_takeOperations (Q := fun reg => L.model reg m)
      (fun _ promoted => L.model_mono promoted) ops (hmodel m hm)
  · intro op hmem
    rw [TargetModel.operations, Contract.assemble, List.flatMap_map] at hmem
    exact hop op ((perm_groupOperations p _).mem_iff.mp hmem)

/-- What every step keeps holds of each model of the output, unless the registry has it, and of each
operation. What the registry has is in the output. -/
theorem GenerationLaw.holds_each {c : Contract} {p : Profile} {flags : Flags}
    (L : GenerationLaw c p flags) {out : TargetModel} (h : generate c p flags = .ok out) :
    ∃ reg, L.registry reg ∧
      (∀ m ∈ out.models, ∃ m', (L.model reg m' ∨ ∃ e ∈ reg.entries, e.2 = m') ∧
        m = { m' with imports := p.modelImports m' }) ∧
      (∀ op ∈ out.operations, L.operation reg op) ∧
      ∀ e ∈ reg.entries, { e.2 with imports := p.modelImports e.2 } ∈ out.models := by
  obtain ⟨reg, models, hreg, hout, -, hmodels, hops⟩ := L.holds h
  rw [hout]
  refine ⟨reg, hreg, fun m hm => ?_, hops, fun e he => ?_⟩
  · obtain ⟨m', hm', rfl⟩ := List.mem_map.mp hm
    rcases List.mem_append.mp hm' with hm' | hm'
    · exact ⟨m', .inl (hmodels m' hm'), rfl⟩
    · obtain ⟨e, he, rfl⟩ := List.mem_map.mp hm'
      exact ⟨e.2, .inr ⟨e, he, rfl⟩, rfl⟩
  · exact List.mem_map.mpr ⟨e.2, List.mem_append_right _ (List.mem_map_of_mem he), rfl⟩

/-- What every step keeps holds of all that is read off the models and the operations of the output,
given the registry from which the models come. -/
theorem GenerationLaw.holds_read {c : Contract} {p : Profile} {flags : Flags}
    (L : GenerationLaw c p flags) {α : Type} (f : Model → List α) (g : ApiOperation → List α)
    {Q : Registry → α → Prop} (himports : ∀ m imports, f { m with imports } = f m)
    (hentries : ∀ reg, L.registry reg → ∀ e ∈ reg.entries, ∀ a ∈ f e.2, Q reg a)
    (hmodel : ∀ reg m, L.model reg m → ∀ a ∈ f m, Q reg a)
    (hop : ∀ reg op, L.operation reg op → ∀ a ∈ g op, Q reg a) {out : TargetModel}
    (h : generate c p flags = .ok out) :
    ∃ reg, L.registry reg ∧ (∀ a ∈ out.models.flatMap f ++ out.operations.flatMap g, Q reg a) ∧
      ∀ e ∈ reg.entries, { e.2 with imports := p.modelImports e.2 } ∈ out.models := by
  obtain ⟨reg, hreg, hmodels, hops, hmem⟩ := L.holds_each h
  refine ⟨reg, hreg, fun a ha => ?_, hmem⟩
  rcases List.mem_append.mp ha with ha | ha
  · obtain ⟨m, hm, ha⟩ := List.mem_flatMap.mp ha
    obtain ⟨m', hm' | ⟨e, he, rfl⟩, rfl⟩ := hmodels m hm <;> rw [himports] at ha
    · exact hmodel reg m' hm' a ha
    · exact hentries reg hreg e he a ha
  · obtain ⟨op, hmemOp, ha⟩ := List.mem_flatMap.mp ha
    exact hop reg op (hops op hmemOp) a ha

/-! ### Contracts with named schemas only -/

/-- A text. -/
def SchemaNode.text : SchemaNode := .inline { type := some (.single .string) }

/-- An object with one property. -/
def SchemaNode.objectWith (property : String) (node : SchemaNode) : SchemaNode :=
  .inline { type := some (.single .object), properties := [(property, node)] }

/-- The branches that all hold. -/
def SchemaNode.all (branches : List SchemaNode) : SchemaNode := .inline { allOf := branches }

/-- A contract with named schemas only. -/
def Contract.ofSchemas (schemas : List (String × SchemaNode)) : Contract where
  version := "3.0.3"
  info := { title := "schemas", version := "1" }
  components := { schemas }

end ApiModel
