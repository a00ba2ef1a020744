import ApiModel.Contract.Basic
import ApiModel.Proofs.Contract.Spelling

/-!
# Contracts in which types are spelled anew

Schemas stand in the parameters, bodies and responses of a contract and among its components. A
contract in which some of their types are spelled anew has the plain spelling that it had before.

## Main definitions

* `Contract.Respelled`: a contract in which the types of any schemas are spelled anew.
* `Contract.plain`: the plain spelling of a contract.

## Main results

* `Contract.Respelled.plain_eq`: spellings of one contract have one plain spelling.
* `preferredMedia_plain`, `successResponse_plain`, `Contract.endpoints_plain`: what counts in a
  contract does not hang on the spelling.
-/

namespace ApiModel

/-! ### Positions that may be pointers -/

section Referable

variable {α β γ : Type}

/-- A position that may be a pointer, with another content. -/
def Referable.map (f : α → β) : Referable α → Referable β
  | ref pointer => ref pointer
  | inline a => inline (f a)

/-- Positions with the same pointer or with related contents. -/
inductive Referable.Rel (R : α → β → Prop) : Referable α → Referable β → Prop
  | ref (pointer : String) : Rel R (ref pointer) (ref pointer)
  | inline {a : α} {b : β} (h : R a b) : Rel R (inline a) (inline b)

theorem Referable.Rel.map_eq_map {R : α → β → Prop} {f : α → γ} {g : β → γ} {x : Referable α}
    {y : Referable β} (h : Rel R x y) (hR : ∀ a b, R a b → f a = g b) : x.map f = y.map g := by
  cases h with
  | ref => rfl
  | inline h => rw [Referable.map, Referable.map, hR _ _ h]

end Referable

/-! ### Parameters -/

/-- A parameter whose schema is spelled anew. -/
inductive Parameter.Respelled : Parameter → Parameter → Prop
  | mk {q : Parameter} {schema : Option SchemaNode}
      (h : Option.Rel SchemaNode.Respelled q.schema schema) : Respelled q { q with schema }

/-- The plain spelling of a parameter. -/
def Parameter.plain (q : Parameter) : Parameter :=
  { q with schema := q.schema.map SchemaNode.plain }

theorem Parameter.Respelled.plain_eq {q q' : Parameter} (h : q.Respelled q') :
    q.plain = q'.plain := by
  cases h with
  | mk h => rw [plain, plain, map_eq_map_of_rel h fun _ _ _ h => h.plain_eq]

/-! ### Content -/

/-- The content of a media type whose schema is spelled anew. -/
inductive MediaType.Respelled : MediaType → MediaType → Prop
  | mk {media : MediaType} {schema : Option SchemaNode}
      (h : Option.Rel SchemaNode.Respelled media.schema schema) : Respelled media { schema }

/-- The plain spelling of the content of a media type. -/
def MediaType.plain (media : MediaType) : MediaType where
  schema := media.schema.map SchemaNode.plain

theorem MediaType.Respelled.plain_eq {media media' : MediaType} (h : media.Respelled media') :
    media.plain = media'.plain := by
  cases h with
  | mk h => rw [plain, plain, map_eq_map_of_rel h fun _ _ _ h => h.plain_eq]

/-- Content in which schemas are spelled anew. -/
abbrev Content.Respelled : Content → Content → Prop := List.Forall₂ (Keyed MediaType.Respelled)

/-- The plain spelling of content. -/
abbrev Content.plain (content : Content) : Content := content.map (Prod.map id MediaType.plain)

theorem Content.Respelled.plain_eq {content content' : Content}
    (h : Content.Respelled content content') : Content.plain content = Content.plain content' :=
  map_eq_map_of_keyed h fun _ _ _ h => h.plain_eq

/-! ### Bodies and responses -/

/-- The body of a request in which schemas are spelled anew. -/
inductive RequestBody.Respelled : RequestBody → RequestBody → Prop
  | mk {body : RequestBody} {content : Content} (h : Content.Respelled body.content content) :
      Respelled body { body with content }

/-- The plain spelling of the body of a request. -/
def RequestBody.plain (body : RequestBody) : RequestBody :=
  { body with content := Content.plain body.content }

theorem RequestBody.Respelled.plain_eq {body body' : RequestBody} (h : body.Respelled body') :
    body.plain = body'.plain := by
  cases h with
  | mk h => rw [plain, plain, h.plain_eq]

/-- A response in which schemas are spelled anew. -/
inductive Response.Respelled : Response → Response → Prop
  | mk {response : Response} {content : Content}
      (h : Content.Respelled response.content content) :
      Respelled response { response with content }

/-- The plain spelling of a response. -/
def Response.plain (response : Response) : Response :=
  { response with content := Content.plain response.content }

theorem Response.Respelled.plain_eq {response response' : Response}
    (h : response.Respelled response') : response.plain = response'.plain := by
  cases h with
  | mk h => rw [plain, plain, h.plain_eq]

/-! ### Operations -/

/-- Parameters in which schemas are spelled anew. -/
abbrev RespelledParameters :
    List (Referable Parameter) → List (Referable Parameter) → Prop :=
  List.Forall₂ (Referable.Rel Parameter.Respelled)

/-- The plain spelling of parameters. -/
abbrev plainParameters (parameters : List (Referable Parameter)) : List (Referable Parameter) :=
  parameters.map (Referable.map Parameter.plain)

theorem plainParameters_eq {parameters parameters' : List (Referable Parameter)}
    (h : RespelledParameters parameters parameters') :
    plainParameters parameters = plainParameters parameters' :=
  map_eq_map_of_forall₂ h fun _ _ _ h => h.map_eq_map fun _ _ h => h.plain_eq

/-- An operation in which schemas are spelled anew. -/
inductive Operation.Respelled : Operation → Operation → Prop
  | mk {op : Operation} {parameters : List (Referable Parameter)}
      {requestBody : Option (Referable RequestBody)} {responses : Responses}
      (hparameters : RespelledParameters op.parameters parameters)
      (hrequestBody : Option.Rel (Referable.Rel RequestBody.Respelled) op.requestBody requestBody)
      (hresponses : List.Forall₂ (Keyed (Referable.Rel Response.Respelled)) op.responses
        responses) :
      Respelled op { op with parameters, requestBody, responses }

/-- The plain spelling of an operation. -/
def Operation.plain (op : Operation) : Operation :=
  { op with
    parameters := plainParameters op.parameters
    requestBody := op.requestBody.map (Referable.map RequestBody.plain)
    responses := op.responses.map (Prod.map id (Referable.map Response.plain)) }

theorem Operation.Respelled.plain_eq {op op' : Operation} (h : op.Respelled op') :
    op.plain = op'.plain := by
  cases h with
  | mk hparameters hrequestBody hresponses =>
    rw [plain, plain, plainParameters_eq hparameters,
      map_eq_map_of_rel hrequestBody fun _ _ _ h => h.map_eq_map fun _ _ h => h.plain_eq,
      map_eq_map_of_keyed hresponses fun _ _ _ h => h.map_eq_map fun _ _ h => h.plain_eq]

/-- A path in which schemas are spelled anew. -/
inductive PathItem.Respelled : PathItem → PathItem → Prop
  | mk {item : PathItem} {parameters : List (Referable Parameter)}
      {operation? : Method → Option Operation}
      (hparameters : RespelledParameters item.parameters parameters)
      (hoperation : ∀ m, Option.Rel Operation.Respelled (item.operation? m) (operation? m)) :
      Respelled item { parameters, operation? }

/-- The plain spelling of a path. -/
def PathItem.plain (item : PathItem) : PathItem where
  parameters := plainParameters item.parameters
  operation? m := (item.operation? m).map Operation.plain

theorem PathItem.Respelled.plain_eq {item item' : PathItem} (h : item.Respelled item') :
    item.plain = item'.plain := by
  cases h with
  | mk hparameters hoperation =>
    rw [plain, plain, plainParameters_eq hparameters]
    congr 1
    exact funext fun m => map_eq_map_of_rel (hoperation m) fun _ _ _ h => h.plain_eq

/-! ### Contracts -/

/-- Components in which schemas are spelled anew. -/
inductive Components.Respelled : Components → Components → Prop
  | mk {c c' : Components}
      (hschemas : List.Forall₂ (Keyed SchemaNode.Respelled) c.schemas c'.schemas)
      (hparameters : List.Forall₂ (Keyed (Referable.Rel Parameter.Respelled)) c.parameters
        c'.parameters)
      (hrequestBodies : List.Forall₂ (Keyed (Referable.Rel RequestBody.Respelled)) c.requestBodies
        c'.requestBodies)
      (hresponses : List.Forall₂ (Keyed (Referable.Rel Response.Respelled)) c.responses
        c'.responses) :
      Respelled c c'

/-- The plain spelling of components. -/
def Components.plain (c : Components) : Components where
  schemas := c.schemas.map (Prod.map id SchemaNode.plain)
  parameters := c.parameters.map (Prod.map id (Referable.map Parameter.plain))
  requestBodies := c.requestBodies.map (Prod.map id (Referable.map RequestBody.plain))
  responses := c.responses.map (Prod.map id (Referable.map Response.plain))

theorem Components.Respelled.plain_eq {c c' : Components} (h : c.Respelled c') :
    c.plain = c'.plain := by
  cases h with
  | mk hschemas hparameters hrequestBodies hresponses =>
    rw [plain, plain, map_eq_map_of_keyed hschemas fun _ _ _ h => h.plain_eq,
      map_eq_map_of_keyed hparameters fun _ _ _ h => h.map_eq_map fun _ _ h => h.plain_eq,
      map_eq_map_of_keyed hrequestBodies fun _ _ _ h => h.map_eq_map fun _ _ h => h.plain_eq,
      map_eq_map_of_keyed hresponses fun _ _ _ h => h.map_eq_map fun _ _ h => h.plain_eq]

/-- A contract in which the types of any schemas are spelled anew: in its components, and in the
parameters, bodies and responses of its paths, at any depth. -/
inductive Contract.Respelled : Contract → Contract → Prop
  | mk {c : Contract} {paths : List (String × PathItem)} {components : Components}
      (hpaths : List.Forall₂ (Keyed PathItem.Respelled) c.paths paths)
      (hcomponents : c.components.Respelled components) :
      Respelled c { c with paths, components }

/-- The plain spelling of a contract. -/
def Contract.plain (c : Contract) : Contract :=
  { c with
    paths := c.paths.map (Prod.map id PathItem.plain)
    components := c.components.plain }

/-- Spellings of one contract have one plain spelling. -/
theorem Contract.Respelled.plain_eq {c c' : Contract} (h : c.Respelled c') :
    c.plain = c'.plain := by
  cases h with
  | mk hpaths hcomponents =>
    rw [plain, plain, map_eq_map_of_keyed hpaths fun _ _ _ h => h.plain_eq, hcomponents.plain_eq]

/-! ### What counts -/

theorem findEntry_map {α β : Type} (f : α → β) (key : String) (entries : List (String × α)) :
    findEntry key (entries.map (Prod.map id f)) = (findEntry key entries).map (Prod.map id f) := by
  rw [findEntry, List.find?_map]
  rfl

theorem preferredMedia_plain (content : Content) :
    preferredMedia (Content.plain content) =
      (preferredMedia content).map (Prod.map id MediaType.plain) := by
  rw [preferredMedia, findEntry_map, List.head?_map, preferredMedia]
  cases findEntry "application/json" content <;> rfl

theorem successResponse_plain (responses : Responses) :
    successResponse (responses.map (Prod.map id (Referable.map Response.plain))) =
      (successResponse responses).map (Prod.map id (Referable.map Response.plain)) := by
  rw [successResponse, findEntry_map, findEntry_map, List.find?_map, successResponse]
  simp only [Option.map_or]
  rfl

/-- The plain spelling of an operation with where it is declared. -/
def Endpoint.plain (e : Endpoint) : Endpoint :=
  { e with item := e.item.plain, operation := e.operation.plain }

theorem PathItem.operations_plain (item : PathItem) :
    item.plain.operations = item.operations.map (Prod.map id Operation.plain) := by
  rw [operations, operations, List.map_filterMap]
  refine List.filterMap_congr fun m _ => ?_
  rw [plain, Option.map_map, Option.map_map]
  rfl

theorem Contract.endpoints_plain (c : Contract) :
    c.plain.endpoints = c.endpoints.map Endpoint.plain := by
  rw [endpoints, endpoints, plain, List.flatMap_map, List.map_flatMap]
  refine List.flatMap_congr fun ⟨path, item⟩ _ => ?_
  simp only [Prod.map, id, PathItem.operations_plain, List.map_map]
  rfl

end ApiModel
