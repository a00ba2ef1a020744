import ApiModel.Proofs.Generation.Output
import ApiModel.Proofs.Resolution.Following

/-!
# Components in place of pointers

A path and an operation may point to the parameters, bodies and responses among the components, and
a component may be a pointer in turn. Whatever an operation has at such a position is looked up
before anything else is done with it: the parameters before they are merged, and the body and the
response before their content is chosen. So a contract in which any of these pointers are replaced
by the content in which their chains end generates what it generated before.

## Main definitions

* `Referable.Inlined`: a position in which a pointer may have been replaced.
* `Contract.Inlined`: a contract in which any pointers to parameters, bodies and responses in its
  paths have been replaced.

## Main results

* `Contract.Inlined.endpoints`: the operations of the two contracts correspond.
* `Resolver.operation_inlined`: an operation is resolved as it was before.
* `generate_eq_of_inlined`: the contract generates what it generated before.
-/

namespace ApiModel

/-! ### Replaced pointers -/

/-- A position at which a pointer to a component may have been replaced by the content in which the
chain of pointers from it ends. -/
inductive Referable.Inlined {α : Type} (kind : String) (entries : List (String × Referable α)) :
    Referable α → Referable α → Prop
  | kept (x : Referable α) : Inlined kind entries x x
  | replaced {pointer name : String} {n : Nat} {a : α}
      (hname : componentName kind pointer = .ok name)
      (h : EndsIn kind id entries n name a) : Inlined kind entries (ref pointer) (inline a)

/-- What is at a position does not change when a pointer is replaced there. -/
theorem Referable.Inlined.get_eq {α : Type} {kind : String} {entries : List (String × Referable α)}
    {x y : Referable α} (h : x.Inlined kind entries y) :
    x.get (fun pointer => follow kind id entries (some pointer) .empty pointer) =
      y.get fun pointer => follow kind id entries (some pointer) .empty pointer := by
  cases h with
  | kept => rfl
  | replaced hname h => exact follow_eq_ok_iff.mpr ⟨_, _, hname, h⟩

section Inlined

variable (c : Components)

/-- Parameters in which pointers may have been replaced. -/
abbrev InlinedParameters : List (Referable Parameter) → List (Referable Parameter) → Prop :=
  List.Forall₂ (Referable.Inlined "parameters" c.parameters)

/-- An operation in which pointers may have been replaced, and nothing else. -/
structure Operation.Inlined (op op' : Operation) : Prop where
  parameters : InlinedParameters c op.parameters op'.parameters
  requestBody : Option.Rel (Referable.Inlined "requestBodies" c.requestBodies) op.requestBody
    op'.requestBody
  responses : List.Forall₂ (Keyed (Referable.Inlined "responses" c.responses)) op.responses
    op'.responses
  rest : op' = { op with
    parameters := op'.parameters
    requestBody := op'.requestBody
    responses := op'.responses }

/-- A path in which pointers may have been replaced. -/
structure PathItem.Inlined (item item' : PathItem) : Prop where
  parameters : InlinedParameters c item.parameters item'.parameters
  operation? : ∀ m, Option.Rel (Operation.Inlined c) (item.operation? m) (item'.operation? m)

/-- An operation with where it is declared, in which pointers may have been replaced. -/
structure Endpoint.Inlined (e e' : Endpoint) : Prop where
  path : e'.path = e.path
  method : e'.method = e.method
  parameters : InlinedParameters c e.item.parameters e'.item.parameters
  operation : e.operation.Inlined c e'.operation

end Inlined

/-- A contract in which any pointers to parameters, bodies and responses in its paths have been
replaced by the content in which their chains end, and nothing else. -/
structure Contract.Inlined (c c' : Contract) : Prop where
  paths : List.Forall₂ (Keyed (PathItem.Inlined c.components)) c.paths c'.paths
  rest : c' = { c with paths := c'.paths }

/-! ### The operations of the two contracts -/

theorem PathItem.Inlined.operations {c : Components} {item item' : PathItem}
    (h : item.Inlined c item') :
    List.Forall₂ (fun e e' => e.1 = e'.1 ∧ e.2.Inlined c e'.2) item.operations
      item'.operations := by
  refine List.rel_filterMap (R := Eq) ?_ (List.forall₂_refl _)
  rintro m _ rfl
  exact rel_map_of_rel (h.operation? m) fun _ _ hop => ⟨rfl, hop⟩

/-- The operations of the two contracts correspond. -/
theorem Contract.Inlined.endpoints {c c' : Contract} (h : c.Inlined c') :
    List.Forall₂ (Endpoint.Inlined c.components) c.endpoints c'.endpoints := by
  refine List.rel_flatMap h.paths ?_
  rintro _ _ ⟨path, hitem⟩
  refine List.rel_map ?_ hitem.operations
  rintro ⟨method, op⟩ ⟨_, op'⟩ ⟨rfl, hop⟩
  exact ⟨rfl, rfl, hitem.parameters, hop⟩

/-! ### Operations are resolved as before -/

theorem InlinedParameters.mapM_get {c : Components} {l l' : List (Referable Parameter)}
    (h : InlinedParameters c l l') :
    l.mapM (fun q => q.get c.parameter) = l'.mapM fun q => q.get c.parameter :=
  mapM_eq_mapM_of_forall₂ h fun _ _ => Referable.Inlined.get_eq

/-- The response that counts stays where it is. -/
theorem rel_successResponse {R : Referable Response → Referable Response → Prop}
    {responses responses' : Responses} (h : List.Forall₂ (Keyed R) responses responses') :
    Option.Rel (Keyed R) (successResponse responses) (successResponse responses') :=
  rel_or_of_rel (rel_find?_of_keyed h isSuccess)
    (rel_or_of_rel (rel_find?_of_keyed h (· == "2XX")) (rel_find?_of_keyed h (· == "default")))

namespace Resolver

variable {r : Resolver} (owner location : String)

theorem parameters_inlined {item item' : PathItem} {op op' : Operation}
    (hitem : InlinedParameters r.components item.parameters item'.parameters)
    (hop : op.Inlined r.components op') :
    r.parameters owner location item op = r.parameters owner location item' op' := by
  have hdeclared : InlinedParameters r.components (item.parameters ++ op.parameters)
      (item'.parameters ++ op'.parameters) := List.rel_append hitem hop.parameters
  rw [parameters, parameters, hdeclared.mapM_get]

theorem requestBody_inlined {body body' : Referable RequestBody}
    (h : body.Inlined "requestBodies" r.components.requestBodies body') :
    r.requestBody owner location body = r.requestBody owner location body' := by
  have hget : body.get r.components.requestBody = body'.get r.components.requestBody := h.get_eq
  rw [requestBody, requestBody, hget]

theorem responseOf_inlined {op op' : Operation} (hop : op.Inlined r.components op') :
    r.responseOf owner location op = r.responseOf owner location op' := by
  rw [responseOf, responseOf]
  have hcounts := rel_successResponse hop.responses
  generalize successResponse op.responses = o, successResponse op'.responses = o' at hcounts
  cases hcounts with
  | none => rfl
  | some hentry =>
    obtain ⟨status, hresponse⟩ := hentry
    have hget : Referable.get r.components.response _ = Referable.get r.components.response _ :=
      hresponse.get_eq
    dsimp only
    rw [hget]

/-- An operation is resolved as it was before. -/
theorem operation_inlined {e e' : Endpoint} (h : e.Inlined r.components e') :
    r.operation e = r.operation e' := by
  have hid : e'.operation.operationId = e.operation.operationId := by rw [h.operation.rest]
  have hsummary : e'.operation.summary = e.operation.summary := by rw [h.operation.rest]
  have htags : e'.operation.tags = e.operation.tags := by rw [h.operation.rest]
  have hdeprecated : e'.operation.deprecated = e.operation.deprecated := by
    rw [h.operation.rest]
  have hbody := h.operation.requestBody
  rw [operation, operation]
  dsimp only
  rw [h.path, h.method, hid, hsummary, htags, hdeprecated,
    parameters_inlined _ _ h.parameters h.operation, responseOf_inlined _ _ h.operation]
  generalize e.operation.requestBody = o, e'.operation.requestBody = o' at hbody
  cases hbody with
  | none => rfl
  | some hbody =>
    dsimp only
    rw [requestBody_inlined _ _ hbody]

end Resolver

/-- A contract in which pointers to parameters, bodies and responses have been replaced generates
what it generated before. -/
theorem generate_eq_of_inlined {c c' : Contract} (h : c.Inlined c') (p : Profile) (flags : Flags) :
    generate c' p flags = generate c p flags := by
  have hresolver : c'.resolver p flags = c.resolver p flags := by
    rw [h.rest]
    rfl
  have hops : (c'.resolver p flags).builtOperations c'.endpoints =
      (c.resolver p flags).builtOperations c.endpoints := by
    rw [hresolver]
    refine (mapM_eq_mapM_of_forall₂ h.endpoints fun e e' he => ?_).symm
    have hop : (c.resolver p flags).operation e = (c.resolver p flags).operation e' :=
      Resolver.operation_inlined he
    rw [hop]
  have hcomponents : c'.components = c.components := by rw [h.rest]
  have hinfo : c'.info = c.info := by rw [h.rest]
  have hservers : c'.servers = c.servers := by rw [h.rest]
  rw [Contract.resolver, Contract.resolver] at hops
  rw [hcomponents] at hops
  simp only [generate, hcomponents, hinfo, hservers, hops]

/-! ### A parameter behind two pointers -/

/-- How many entries are asked for. -/
def Parameter.limit : Parameter :=
  { name := "limit", location := .query, schema := some .text }

/-- A text as the content of a message. -/
def Content.textPlain : Content := [("text/plain", { schema := some .text })]

/-- A contract with one operation, which has one parameter, a body and one response. Each of them is
among the components, the parameter under two names. -/
def Contract.searching (q : Referable Parameter) (body : Referable RequestBody)
    (found : Referable Response) : Contract where
  version := "3.0.3"
  info := { title := "searching", version := "1" }
  paths := [("/search", { operation? := fun
    | .post => some { parameters := [q], requestBody := some body, responses := [("200", found)] }
    | _ => none })]
  components :=
    { parameters := [("Size", .ref "#/components/parameters/Limit"), ("Limit", .inline .limit)]
      requestBodies := [("Query", .inline { content := .textPlain })]
      responses := [("Found", .inline { content := .textPlain })] }

/-- With its pointers replaced the contract generates what it generated before. -/
theorem generate_searching_inlined :
    let c := Contract.searching (.ref "#/components/parameters/Size")
      (.ref "#/components/requestBodies/Query") (.ref "#/components/responses/Found")
    let c' := Contract.searching (.inline .limit) (.inline { content := .textPlain })
      (.inline { content := .textPlain })
    c.Inlined c' ∧ generate c' .jaxrsSpec {} = generate c .jaxrsSpec {} := by
  intro c c'
  have h : c.Inlined c' := by
    refine ⟨.cons (.mk _ ⟨.nil, fun m => ?_⟩) .nil, rfl⟩
    cases m with
    | post =>
      exact .some ⟨.cons (.replaced rfl (.pointer rfl rfl rfl (.content rfl rfl))) .nil,
        .some (.replaced rfl (.content rfl rfl)),
        .cons (.mk _ (.replaced rfl (.content rfl rfl))) .nil, rfl⟩
    | _ => exact .none
  exact ⟨h, generate_eq_of_inlined h .jaxrsSpec {}⟩

end ApiModel
