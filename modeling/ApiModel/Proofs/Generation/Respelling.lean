import ApiModel.Proofs.Generation.Output
import ApiModel.Proofs.Resolution.Respelling

/-!
# Generating ignores spellings

The parameters, bodies and responses of operations are looked up, merged and chosen without a
glance at their schemas, which are then resolved. So the plain spelling of a contract generates what
the contract generates, and a contract in which types are spelled anew generates what it generated
before.

## Main results

* `Resolver.operation_plain`: resolving an operation.
* `generate_plain`: generating for the plain spelling of a contract.
* `generate_eq_of_respelled`: generating for a contract in which types are spelled anew.
-/

namespace ApiModel

/-! ### Parameters -/

theorem insertParameter_plain (q : Parameter) (parameters : List Parameter) :
    insertParameter q.plain (parameters.map Parameter.plain) =
      (insertParameter q parameters).map Parameter.plain := by
  induction parameters with
  | nil => rfl
  | cons q' rest ih =>
    rw [List.map_cons, insertParameter, insertParameter, ih]
    by_cases h : q'.name = q.name ∧ q'.location = q.location
    · rw [if_pos h]
      exact if_pos h
    · rw [if_neg h]
      exact if_neg h

theorem mergeParameters_plain (parameters : List Parameter) :
    mergeParameters (parameters.map Parameter.plain) =
      (mergeParameters parameters).map Parameter.plain := by
  have hfold (acc : List Parameter) :
      parameters.foldl (fun acc q => insertParameter q.plain acc) (acc.map Parameter.plain) =
        (parameters.foldl (fun acc q => insertParameter q acc) acc).map Parameter.plain :=
    List.foldl_hom (List.map Parameter.plain) fun acc q => insertParameter_plain q acc
  rw [mergeParameters, mergeParameters, List.foldl_map]
  exact hfold []

/-- What a changed position holds when components are looked up that are changed alike. -/
theorem Referable.get_map {α : Type} (f : α → α) {look look' : String → Except ResolveError α}
    (h : ∀ pointer, look' pointer = (look pointer).map f) (x : Referable α) :
    (x.map f).get look' = (x.get look).map f := by
  cases x with
  | ref pointer => exact h pointer
  | inline a => rfl

namespace Resolver

variable (r : Resolver)

theorem parameter_plain (owner location : String) (q : Parameter) :
    r.plain.parameter owner location q.plain = r.parameter owner location q := by
  rw [parameter, parameter]
  dsimp only [Parameter.plain]
  rcases q.schema with _ | node
  · rfl
  · simp only [Option.map_some, r.resolve_plain, components_plain, r.components.target_plain,
      Resolving.lift_map_bind, SchemaBody.constraints_plain, profile_plain]
    rfl

theorem parameters_plain (owner location : String) (item : PathItem) (op : Operation) :
    r.plain.parameters owner location item.plain op.plain =
      r.parameters owner location item op := by
  have hdeclared : (item.plain.parameters ++ op.plain.parameters).mapM
      (Referable.get r.components.plain.parameter) =
        ((item.parameters ++ op.parameters).mapM
          (Referable.get r.components.parameter)).map (List.map Parameter.plain) := by
    rw [PathItem.plain, Operation.plain, plainParameters, plainParameters, ← List.map_append]
    exact mapM_map_of_map (Referable.get_map _ r.components.parameter_plain) _
  rw [parameters, parameters, components_plain, hdeclared]
  simp only [Resolving.lift_map_bind, mergeParameters_plain, List.mapM_map, Function.comp_def,
    r.parameter_plain]

/-! ### Bodies and responses -/

theorem requestBody_plain (owner location : String) (body : Referable RequestBody) :
    r.plain.requestBody owner location (body.map RequestBody.plain) =
      r.requestBody owner location body := by
  rw [requestBody, requestBody, components_plain,
    Referable.get_map _ r.components.requestBody_plain, Resolving.lift_map_bind]
  refine bind_congr fun body => ?_
  dsimp only [RequestBody.plain]
  rw [preferredMedia_plain]
  rcases preferredMedia body.content with _ | ⟨contentType, ⟨_ | node⟩⟩
  · rfl
  · rfl
  · simp [Prod.map, MediaType.plain, r.resolve_plain]

theorem responseOf_plain (owner location : String) (op : Operation) :
    r.plain.responseOf owner location op.plain = r.responseOf owner location op := by
  rw [responseOf, responseOf]
  dsimp only [Operation.plain]
  rw [successResponse_plain]
  rcases successResponse op.responses with _ | ⟨status, response⟩
  · rfl
  · dsimp only [Option.map_some, Prod.map]
    rw [components_plain, Referable.get_map _ r.components.response_plain,
      Resolving.lift_map_bind]
    refine bind_congr fun response => ?_
    dsimp only [Response.plain]
    rw [preferredMedia_plain]
    rcases preferredMedia response.content with _ | ⟨contentType, ⟨_ | node⟩⟩
    · rfl
    · rfl
    · simp [Prod.map, MediaType.plain, r.resolve_plain]

theorem operation_plain (e : Endpoint) : r.plain.operation e.plain = r.operation e := by
  rw [operation, operation]
  simp only [Endpoint.plain, r.parameters_plain, r.responseOf_plain]
  rcases hbody : e.operation.requestBody with _ | body
  · simp [Operation.plain, hbody]
  · simp [Operation.plain, hbody, r.requestBody_plain]

/-! ### What is resolved on its own -/

theorem builtModels_plain : r.plain.builtModels = r.builtModels := by
  simp only [builtModels, components_plain, Components.plain, List.mapM_map, Function.comp_def,
    Prod.map, id, r.component_plain, r.run_plain]

theorem builtOperations_plain (endpoints : List Endpoint) :
    r.plain.builtOperations (endpoints.map Endpoint.plain) = r.builtOperations endpoints := by
  simp only [builtOperations, List.mapM_map, Function.comp_def, r.operation_plain, r.run_plain]

end Resolver

/-! ### Generating -/

/-- The plain spelling of a contract generates what the contract generates. -/
theorem generate_plain (c : Contract) (p : Profile) (flags : Flags) :
    generate c.plain p flags = generate c p flags := by
  have hmodels := Resolver.builtModels_plain { components := c.components, profile := p, flags }
  have hoperations := Resolver.builtOperations_plain
    { components := c.components, profile := p, flags } c.endpoints
  have hnames : c.plain.components.schemaNames = c.components.schemaNames :=
    c.components.schemaNames_plain
  rw [generate, generate, Contract.endpoints_plain]
  simp only [hnames]
  dsimp only [Contract.plain, Resolver.plain] at hmodels hoperations ⊢
  rw [hmodels, hoperations]

/-- A contract in which types are spelled anew generates what it generated before: the same output,
or the same error. -/
theorem generate_eq_of_respelled {c c' : Contract} (h : c.Respelled c') (p : Profile)
    (flags : Flags) : generate c' p flags = generate c p flags := by
  rw [← generate_plain c', ← h.plain_eq, generate_plain]

/-! ### A contract in both spellings -/

/-- A contract with one named object schema, which has one property. -/
def Contract.naming (object name : TypeSpec) (nullable : Option Bool) : Contract where
  version := "3.1.0"
  info := { title := "naming", version := "1" }
  components :=
    { schemas :=
        [("Pet", .inline
          { type := some object
            properties := [("name", .inline { type := some name, nullable })] })] }

/-- An object by a list of its own, and a text that may be null by a list with `null`. -/
theorem generate_of_listed_types : ∃ out,
    generate (.naming (.single .object) (.single .string) (some true)) .jaxrsSpec {} = .ok out ∧
    generate (.naming (.several [.object]) (.several [.null, .string]) none) .jaxrsSpec {} =
      .ok out ∧
    (out.models.map fun m => m.fields.map fun f => (f.property, f.nullable)) =
      [[("name", true)]] := by
  have hrespelled : (Contract.naming (.single .object) (.single .string) (some true)).Respelled
      (.naming (.several [.object]) (.several [.null, .string]) none) :=
    .mk .nil (.mk (.cons (.mk _ (.inline (.listed (by decide) (by decide))
      (.cons (.mk _ (.inline (.nullFirst (by decide)) .nil .none .none .nil .nil .nil)) .nil)
      .none .none .nil .nil .nil)) .nil) .nil .nil .nil)
  have hrun : ∃ out, generate (.naming (.single .object) (.single .string) (some true)) .jaxrsSpec
      {} = .ok out ∧ (out.models.map fun m => m.fields.map fun f => (f.property, f.nullable)) =
        [[("name", true)]] := exists_of_generate (by decide +kernel)
  obtain ⟨out, h, hfields⟩ := hrun
  exact ⟨out, h, (generate_eq_of_respelled hrespelled .jaxrsSpec {}).trans h, hfields⟩

end ApiModel
