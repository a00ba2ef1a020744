import ApiModel.Proofs.Generation.Output
import ApiModel.Proofs.Generation.Rendering

/-!
# The types in the output

The signature of an operation is chosen when the operation is resolved, before it is known which
promoted models have to be renamed; what the operation exchanges and what it returns in code are
then renamed apart from each other. In the output the one still follows from the other, and the
rendered names of all types follow from their structure.

## Main definitions

* `Model.Plain`, `ApiOperation.Shaped`: what holds of the types of models and of operations.
* `renderingLaw`: every step of the generation keeps it.
* `Contract.listing`: a contract whose operations promote different models of one name.

## Main results

* `structural_of_generate`: rendered names follow structure, and only what is returned in code is
  delivered later.
* `shape_of_generate`: the signature of an operation is what its response and the flags say.
-/

namespace ApiModel

/-- The types of a model are plain. -/
def Model.Plain (p : Profile) (flags : Flags) (m : Model) : Prop :=
  ∀ t ∈ m.referencedTypes, t.Plain p flags

/-- What an operation exchanges is plain, and its signature is what its response and the flags
say. -/
structure ApiOperation.Shaped (p : Profile) (flags : Flags) (op : ApiOperation) : Prop where
  exchanged : ∀ t ∈ op.exchangedTypes, t.Plain p flags
  shape : op.shape = p.returnShape op.response flags

section Steps

variable {p : Profile} {flags : Flags}

/-! ### Models -/

namespace Model

variable {m : Model}

theorem Plain.named (h : m.Plain p flags) (name : String) : (m.named name).Plain p flags := by
  rwa [Plain, referencedTypes_named]

theorem Plain.renamed (hp : p.DistinctWrappers) (h : m.Plain p flags) (ρ : Renames) :
    (ρ.model p m).Plain p flags :=
  ρ.forall_types_model p m (fun _ ht => ht.renamed hp ρ) h

end Model

/-- The models that a resolver promotes are plain. -/
theorem Resolver.plain_of_promoted {r : Resolver} {hp : r.profile.ObjectContainers}
    {promoted : List Model} (h : (r.renderingLaw hp flags).Promoted promoted) :
    ∀ m ∈ promoted, m.Plain r.profile flags := by
  intro m hm
  obtain ⟨_, -, hplain⟩ := h.exists_model hm
  exact hplain

/-- Plain models are taken as plain models. -/
theorem Registry.Sound.plain_adopt {reg : Registry} {schemaNames : List String}
    {promoted : List Model} (hp : p.DistinctWrappers) (h : reg.Sound schemaNames)
    (hreg : ∀ e ∈ reg.entries, e.2.Plain p flags) (hpromoted : ∀ m ∈ promoted, m.Plain p flags) :
    ∀ e ∈ (reg.adopt p promoted).2.entries, e.2.Plain p flags :=
  h.forall_adopt (fun _ name hm => hm.named name) (fun _ ρ hm => hm.renamed hp ρ) hreg hpromoted

/-! ### Operations -/

namespace ApiOperation

variable {op : ApiOperation}

theorem Shaped.response (h : op.Shaped p flags) : op.response.Plain p flags := by
  cases hresponse : op.response with
  | content t => exact h.exchanged t (mem_exchangedTypes_of_response hresponse)
  | noContent => trivial

theorem Shaped.named (h : op.Shaped p flags) (name : String) : (op.named name).Shaped p flags := by
  rw [ApiOperation.named]
  split
  · exact h
  · exact ⟨h.exchanged, h.shape⟩

theorem exchangedTypes_renamed {ρ : Renames} (hρ : ρ ≠ []) :
    (ρ.operation p op).exchangedTypes = op.exchangedTypes.map (ρ.type p) := by
  rw [Renames.operation, if_neg (by simpa using hρ)]
  simp only [exchangedTypes, List.map_append, List.map_map]
  congr 1
  · cases op.requestBody <;> simp [Function.comp_def]
  · cases op.response <;> rfl

/-- The signature still follows from the response when both have been renamed. -/
theorem Shaped.renamed (hp : p.ObjectContainers) (hp' : p.DistinctWrappers)
    (h : op.Shaped p flags) (ρ : Renames) : (ρ.operation p op).Shaped p flags := by
  rcases eq_or_ne ρ [] with rfl | hρ
  · exact h
  refine ⟨fun t ht => ?_, ?_⟩
  · rw [exchangedTypes_renamed hρ] at ht
    obtain ⟨u, hu, rfl⟩ := List.mem_map.mp ht
    exact (h.exchanged u hu).renamed hp' ρ
  · have hreturn := ρ.type_returnType hp hp' h.response
    rw [Renames.operation, if_neg (by simpa using hρ)]
    dsimp only
    rw [h.shape, hreturn]
    rfl

end ApiOperation

end Steps

/-! ### Every step of the generation -/

/-- Every step of the generation keeps what holds of the types. -/
def renderingLaw (c : Contract) {p : Profile} (hp : p.ObjectContainers)
    (hp' : p.DistinctWrappers) (flags : Flags) : GenerationLaw c p flags where
  registry reg := reg.Sound c.components.schemaNames ∧ ∀ e ∈ reg.entries, e.2.Plain p flags
  model _ m := m.Plain p flags
  operation _ op := op.Shaped p flags
  initial := ⟨Registry.sound_initial _, by simp [Registry.initial]⟩
  model_mono _ h := h
  operation_mono _ h := h
  component _ hreg hrun := by
    obtain ⟨hm, hpromoted⟩ :=
      Resolver.Law.run_component ((c.resolver p flags).renderingLaw hp flags) hrun
    exact ⟨⟨hreg.1.adopt p _, hreg.1.plain_adopt hp' hreg.2 (Resolver.plain_of_promoted hpromoted)⟩,
      Model.Plain.renamed hp' (hm.holds (Resolver.plain_finish hp)) _⟩
  endpoint _ hreg hrun := by
    obtain ⟨hop, hpromoted⟩ :=
      Resolver.Law.run_operation ((c.resolver p flags).renderingLaw hp flags) hrun
    have hshaped : ApiOperation.Shaped p flags _ :=
      ⟨hop.holds (Resolver.plain_finish hp) Resolver.plain_any, hop.shape⟩
    exact ⟨⟨hreg.1.adopt p _, hreg.1.plain_adopt hp' hreg.2 (Resolver.plain_of_promoted hpromoted)⟩,
      fun name => (hshaped.renamed hp hp' _).named name⟩

/-! ### The output -/

/-- A list of objects that have no name and one property. -/
def SchemaNode.listing (property : String) : SchemaNode :=
  .inline { type := some (.single .array), items := some (.objectWith property .text) }

/-- A contract with an operation of the same name at each of its paths, which answers a list of
objects that have no name and one property. -/
def Contract.listing (operations : List (String × String)) : Contract where
  version := "3.0.3"
  info := { title := "listing", version := "1" }
  paths := operations.map fun (path, property) =>
    (path, { operation? := fun
      | .get => some
          { operationId := some "list"
            responses := [("200", .inline
              { content := [("application/json", { schema := some (.listing property) })] })] }
      | _ => none })

section Output

variable {c : Contract} {p : Profile} {flags : Flags} {out : TargetModel}

/-- In the output the types of models are plain, and operations are shaped by their responses. -/
theorem plain_of_generate (hp : p.ObjectContainers) (hp' : p.DistinctWrappers)
    (h : generate c p flags = .ok out) :
    (∀ m ∈ out.models, m.Plain p flags) ∧ ∀ op ∈ out.operations, op.Shaped p flags := by
  obtain ⟨reg, hreg, hmodels, hops, -⟩ := (renderingLaw c hp hp' flags).holds_each h
  refine ⟨fun m hm => ?_, hops⟩
  obtain ⟨m', hm' | ⟨e, he, rfl⟩, rfl⟩ := hmodels m hm
  · exact hm'
  · exact hreg.2 e he

/-- Rendered names follow structure everywhere in the output. The types of models, and those that
operations exchange, are never delivered later; of what is returned in code at most the whole is. -/
theorem structural_of_generate {id : String} (hp : Profile.builtin? id = some p)
    (h : generate c p flags = .ok out) :
    (∀ m ∈ out.models, ∀ t ∈ m.referencedTypes, t.Plain p flags) ∧
      ∀ op ∈ out.operations, (∀ t ∈ op.exchangedTypes, t.Plain p flags) ∧
        op.shape.returnType.Structural p flags ∧
        ∀ u ∈ op.shape.returnType.kind.parts, u.Plain p flags := by
  have hcontainers := Profile.objectContainers_of_builtin hp
  obtain ⟨hmodels, hops⟩ :=
    plain_of_generate hcontainers (Profile.distinctWrappers_of_builtin hp) h
  refine ⟨hmodels, fun op hop => ?_⟩
  have hshaped := hops op hop
  refine ⟨hshaped.exchanged, ?_⟩
  rw [hshaped.shape]
  exact Profile.structural_returnType hcontainers hshaped.response

/-- Two operations promote different models of one name; the second model gets another name, which
the type around it and the type that is delivered later show. -/
theorem structural_of_listing : ∃ out,
    Profile.builtin? "jaxrs_spec" = some .jaxrsSpec ∧
    generate (.listing [("/pets", "tag"), ("/stores", "town")]) .jaxrsSpec
      { supportAsync := true, interfaceOnly := true } = .ok out ∧
    (out.operations.map fun op => op.shape.returnType.name) =
      ["CompletionStage<List<ListResponse>>", "CompletionStage<List<ListResponse2>>"] ∧
    ∀ op ∈ out.operations, op.shape.returnType.Structural .jaxrsSpec
      { supportAsync := true, interfaceOnly := true } := by
  have hrun : ∃ out, generate (.listing [("/pets", "tag"), ("/stores", "town")]) .jaxrsSpec
      { supportAsync := true, interfaceOnly := true } = .ok out ∧
        (out.operations.map fun op => op.shape.returnType.name) =
          ["CompletionStage<List<ListResponse>>", "CompletionStage<List<ListResponse2>>"] :=
    exists_of_generate (by decide +kernel)
  obtain ⟨out, h, hnames⟩ := hrun
  have hp : Profile.builtin? "jaxrs_spec" = some .jaxrsSpec := rfl
  obtain ⟨-, hops⟩ := structural_of_generate hp h
  exact ⟨out, hp, h, hnames, fun op hop => (hops op hop).2.1⟩

/-- The signature of every operation in the output is what its response and the flags say. -/
theorem shape_of_generate {id : String} (hp : Profile.builtin? id = some p)
    (h : generate c p flags = .ok out) :
    ∀ op ∈ out.operations, op.shape = p.returnShape op.response flags :=
  fun op hop => ((plain_of_generate (Profile.objectContainers_of_builtin hp)
    (Profile.distinctWrappers_of_builtin hp) h).2 op hop).shape

/-- A client that returns what is received: the response and the signature of the second operation
refer to the model under its new name. -/
theorem shape_of_listing : ∃ out,
    Profile.builtin? "typescript" = some .typescript ∧
    generate (.listing [("/pets", "tag"), ("/stores", "town")]) .typescript
      { supportAsync := true } = .ok out ∧
    (out.operations.map fun op => op.shape.returnType.name) =
      ["Promise<Array<ListResponse>>", "Promise<Array<ListResponse2>>"] ∧
    ∀ op ∈ out.operations,
      op.shape = Profile.typescript.returnShape op.response { supportAsync := true } := by
  have hrun : ∃ out, generate (.listing [("/pets", "tag"), ("/stores", "town")]) .typescript
      { supportAsync := true } = .ok out ∧
        (out.operations.map fun op => op.shape.returnType.name) =
          ["Promise<Array<ListResponse>>", "Promise<Array<ListResponse2>>"] :=
    exists_of_generate (by decide +kernel)
  obtain ⟨out, h, hnames⟩ := hrun
  have hp : Profile.builtin? "typescript" = some .typescript := rfl
  exact ⟨out, hp, h, hnames, shape_of_generate hp h⟩

end Output

end ApiModel
