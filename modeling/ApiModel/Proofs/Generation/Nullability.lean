import ApiModel.Proofs.Generation.FieldSemantics
import ApiModel.Proofs.Generation.Operations
import ApiModel.Proofs.Resolution.Parameters

/-!
# Whether what is sent may be null

A parameter and the body of a request say whether they must be sent. With a schema they may be null
exactly if they need not be sent, or if the schema to which theirs leads is marked nullable: this is
decided when the schema is resolved, and no later step changes it. A parameter without a schema, and
a body whose media type has none, are of the type of any value, which is not resolved. Of them it
stays unknown whether they may be null, whether or not they must be sent.

## Main definitions

* `Components.GivesNullability`: whether what is sent may be null, by its schema.
* `ApiParameter.Follows`, `ApiBody.Follows`, `ApiOperation.Follows`: what is sent says what the
  contract says.
* `nullabilityLaw`: every step of the generation keeps this.

## Main results

* `Resolver.givesNullability_of_resolve`: what comes of a schema where it is used.
* `Resolver.follows_of_run`: what a resolved operation says.
* `nullability_of_generate`: what the operations of an output say.
-/

namespace ApiModel

/-! ### What is said of what is sent -/

/-- With a schema, what is sent may be null if it need not be sent or the schema to which its schema
leads is marked nullable, and otherwise it may not. Without a schema it is unknown. -/
structure Components.GivesNullability (c : Components) (required : Bool)
    (schema : Option SchemaNode) (n : Nullability) : Prop where
  typeless : schema = none → n = .unknown
  typed : ∀ node ∈ schema, ∃ target, c.target node = .ok target ∧
    n = if required = false ∨ target.nullableMarker = some true then .nullable else .nonNull

/-- A parameter says what its declaration says. -/
structure ApiParameter.Follows (c : Components) (q : Parameter) (a : ApiParameter) : Prop where
  key : a.key = q.key
  required : a.required = true ↔ q.required = true ∨ q.location = .path
  nullability : c.GivesNullability a.required q.schema a.type.nullability

/-- The body of a request says what its declaration says, by the media type that counts. -/
structure ApiBody.Follows (c : Components) (body : RequestBody) (b : ApiBody) : Prop where
  required : b.required = body.required
  nullability : ∃ media, preferredMedia body.content = some (b.contentType, media) ∧
    c.GivesNullability b.required media.schema b.type.nullability

/-- What is sent to an operation says what the contract says where the operation is declared, once
each pointer is followed. -/
structure ApiOperation.Follows (c : Components) (e : Endpoint) (op : ApiOperation) : Prop where
  route : op.route = e.route
  parameters : ∃ declared, List.Forall₂ (Referable.ComesTo "parameters" c.parameters)
      (e.item.parameters ++ e.operation.parameters) declared ∧
    ∀ a ∈ op.parameters, ∃ q, q.IsLastOf declared ∧ a.Follows c q
  requestBody : ∀ b ∈ op.requestBody, ∃ position ∈ e.operation.requestBody, ∃ body,
    position.ComesTo "requestBodies" c.requestBodies body ∧ b.Follows c body

/-! ### When an operation is resolved -/

namespace Resolver

variable {r : Resolver} {usage : Usage} {owner location : String} {st st' : Promotions}

/-- What comes of a schema where it is known whether it must be sent. -/
theorem givesNullability_of_resolve {node : SchemaNode} {t : ResolvedType} {required : Bool}
    (husage : usage.required = some required)
    (h : (r.resolve usage node).outcome st = (.ok t, st')) :
    r.components.GivesNullability required (some node) t.nullability := by
  refine ⟨nofun, ?_⟩
  rintro _ ⟨⟩
  obtain ⟨shape, st₁, -, h⟩ := Resolving.exists_of_outcome_bind h
  obtain ⟨target, htarget, h⟩ := Resolving.exists_of_outcome_lift_bind h
  cases h
  refine ⟨target, htarget, ?_⟩
  rw [r.nullability_finish, Usage.nullability, husage]
  simp only [Bool.not_eq_true', or_comm]

/-- The type of any value is not resolved. -/
theorem givesNullability_any (required : Bool) :
    r.components.GivesNullability required none r.any.nullability :=
  ⟨fun _ => rfl, nofun⟩

theorem BuiltFrom.follows {q : Parameter} {a : ApiParameter}
    (h : r.BuiltFrom owner location q a) : a.Follows r.components q := by
  refine ⟨h.key, h.required, ?_⟩
  cases hschema : q.schema with
  | none =>
    rw [(h.typeless hschema).1]
    exact givesNullability_any _
  | some node =>
    obtain ⟨_, -, -, st, st', hout⟩ := h.typed node hschema
    exact givesNullability_of_resolve rfl hout

theorem follows_of_requestBody {position : Referable RequestBody} {b : ApiBody}
    (h : (r.requestBody owner location position).outcome st = (.ok (some b), st')) :
    ∃ body, position.ComesTo "requestBodies" r.components.requestBodies body ∧
      b.Follows r.components body := by
  obtain ⟨body, hbody, h⟩ := Resolving.exists_of_outcome_lift_bind h
  refine ⟨body, Referable.comesTo_of_get hbody, ?_⟩
  split at h
  · cases h
  next contentType media hmedia =>
    dsimp only at h
    split at h
    next node hschema =>
      obtain ⟨type, st₁, htype, h⟩ := Resolving.exists_of_outcome_bind h
      cases h
      exact ⟨rfl, media, hmedia, hschema ▸ givesNullability_of_resolve rfl htype⟩
    next hschema =>
      cases h
      exact ⟨rfl, media, hmedia, hschema ▸ givesNullability_any _⟩

theorem requestBody_follows_of_outcome {e : Endpoint} {op : ApiOperation}
    (h : (r.operation e).outcome st = (.ok op, st')) :
    ∀ b ∈ op.requestBody, ∃ position ∈ e.operation.requestBody, ∃ body,
      position.ComesTo "requestBodies" r.components.requestBodies body ∧
        b.Follows r.components body := by
  obtain ⟨_, _, -, hbody, -⟩ := steps_of_operation h
  intro b hb
  rw [Option.mem_def.mp hb] at hbody
  cases hposition : e.operation.requestBody with
  | none =>
    rw [hposition] at hbody
    cases hbody
  | some position =>
    rw [hposition] at hbody
    exact ⟨position, rfl, follows_of_requestBody hbody⟩

/-- What is sent to a resolved operation says what the contract says. -/
theorem follows_of_run {e : Endpoint} {op : ApiOperation} {promoted : List Model}
    (h : r.run (r.operation e) = .ok (op, promoted)) : op.Follows r.components e := by
  obtain ⟨st, hout, -⟩ := exists_outcome_of_run h
  obtain ⟨declared, hdeclared, hbuilt⟩ := builtFrom_of_outcome hout
  refine ⟨(declaredBy_of_run h).route, ⟨declared, hdeclared, fun a ha => ?_⟩,
    requestBody_follows_of_outcome hout⟩
  obtain ⟨q, hq, hqa⟩ := exists_of_forall₂ hbuilt ha
  exact ⟨q, isLastOf_of_mem_mergeParameters hq, hqa.follows⟩

end Resolver

/-! ### New names -/

section Renaming

variable {c : Components} {p : Profile} {e : Endpoint} {op : ApiOperation}

namespace ApiOperation

/-- What is sent says the same when models have been given new names. -/
theorem Follows.renamed (h : op.Follows c e) (ρ : Renames) : (ρ.operation p op).Follows c e := by
  refine ⟨(ρ.route_operation p op).trans h.route, ?_, ?_⟩ <;> rw [Renames.operation] <;> split
  · exact h.parameters
  · obtain ⟨declared, hdeclared, hparameters⟩ := h.parameters
    refine ⟨declared, hdeclared, List.forall_mem_map.mpr fun a ha => ?_⟩
    obtain ⟨q, hq, hqa⟩ := hparameters a ha
    exact ⟨q, hq, hqa.key, hqa.required, ρ.nullability_type p a.type ▸ hqa.nullability⟩
  · exact h.requestBody
  · intro b' hb'
    obtain ⟨b, hb, rfl⟩ := Option.map_eq_some_iff.mp hb'
    obtain ⟨position, hposition, body, hbody, hfollows⟩ := h.requestBody b hb
    refine ⟨position, hposition, body, hbody, hfollows.required, ?_⟩
    rw [ρ.nullability_type]
    exact hfollows.nullability

theorem Follows.named (h : op.Follows c e) (name : String) : (op.named name).Follows c e := by
  rw [ApiOperation.named]
  split
  · exact h
  · exact ⟨h.route, h.parameters, h.requestBody⟩

end ApiOperation

end Renaming

/-! ### The output -/

/-- Every step of the generation keeps what is said of what is sent. -/
def nullabilityLaw (c : Contract) (p : Profile) (flags : Flags) : GenerationLaw c p flags where
  registry _ := True
  model _ _ := True
  operation _ op := ∃ e ∈ c.endpoints, op.Follows c.components e
  initial := trivial
  model_mono _ h := h
  operation_mono _ h := h
  component _ _ _ := ⟨trivial, trivial⟩
  endpoint he _ hrun := ⟨trivial, fun name =>
    ⟨_, he, ((Resolver.follows_of_run hrun).renamed _).named name⟩⟩

section Output

variable {c : Contract} {p : Profile} {flags : Flags} {out : TargetModel}

/-- In every output each parameter and each body of an operation says what the contract says where
the operation is declared. With a schema it may be null exactly if it need not be sent or the schema
to which its schema leads is marked nullable, and otherwise it may not; of nothing else but what has
no schema it is unknown whether it may be null. -/
theorem nullability_of_generate (h : generate c p flags = .ok out) :
    ∀ op ∈ out.operations, ∃ e ∈ c.endpoints, op.Follows c.components e := by
  obtain ⟨_, -, -, hops, -⟩ := (nullabilityLaw c p flags).holds_each h
  exact hops

end Output

/-! ### What must be sent -/

/-- A contract with an operation to which a parameter and a body must be sent. -/
def Contract.sending (parameter content : Option SchemaNode) : Contract where
  version := "3.0.3"
  info := { title := "sending", version := "1" }
  paths := [("/pets", { operation? := fun
    | .post => some
        { operationId := some "sendPet"
          parameters := [.inline
            { name := "owner", location := .query, required := true, schema := parameter }]
          requestBody := some (.inline
            { content := [("text/plain", { schema := content })], required := true }) }
    | _ => none })]
  components := { schemas :=
    [("Owner", .ref "#/components/schemas/Label"),
     ("Label", .inline { type := some (.single .string), nullable := some true })] }

/-- Whether the parameters and the bodies in an output may be null. -/
def TargetModel.nullabilities (out : TargetModel) : List Nullability × List Nullability :=
  (out.operations.flatMap fun op => op.parameters.map fun a => a.type.nullability,
    out.operations.flatMap fun op => op.requestBody.toList.map fun b => b.type.nullability)

/-- What must be sent may be null if the schema is marked so that stands behind two names. -/
theorem nullability_of_sending : ∃ out,
    generate (.sending (some (.ref "#/components/schemas/Owner")) (some .text)) .jaxrsSpec {} =
      .ok out ∧
    out.nullabilities = ([.nullable], [.nonNull]) ∧
    ∀ op ∈ out.operations,
      ∃ e ∈ (Contract.sending (some (.ref "#/components/schemas/Owner")) (some .text)).endpoints,
        op.Follows (Contract.sending (some (.ref "#/components/schemas/Owner"))
          (some .text)).components e := by
  have hrun : ∃ out, generate (.sending (some (.ref "#/components/schemas/Owner")) (some .text))
      .jaxrsSpec {} = .ok out ∧ out.nullabilities = ([.nullable], [.nonNull]) :=
    exists_of_generate (by decide +kernel)
  obtain ⟨out, h, hnullabilities⟩ := hrun
  exact ⟨out, h, hnullabilities, nullability_of_generate h⟩

/-- What must be sent but has no schema is not known to be there. -/
theorem unknown_nullability_of_sending : ∃ out,
    generate (.sending none none) .jaxrsSpec {} = .ok out ∧
    out.nullabilities = ([.unknown], [.unknown]) ∧
    ∀ op ∈ out.operations, (∀ a ∈ op.parameters, a.required) ∧ ∀ b ∈ op.requestBody, b.required := by
  have hrun : ∃ out, generate (.sending none none) .jaxrsSpec {} = .ok out ∧
      (out.nullabilities, decide (∀ op ∈ out.operations,
        (∀ a ∈ op.parameters, a.required) ∧ ∀ b ∈ op.requestBody, b.required)) =
        (([.unknown], [.unknown]), true) := exists_of_generate (by decide +kernel)
  obtain ⟨out, h, hrun⟩ := hrun
  obtain ⟨hnullabilities, hrequired⟩ := Prod.mk.inj hrun
  exact ⟨out, h, hnullabilities, of_decide_eq_true hrequired⟩

end ApiModel
