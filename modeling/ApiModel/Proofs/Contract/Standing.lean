import ApiModel.Contract.Basic
import ApiModel.Proofs.Contract.Positions

/-!
# The schemas of a contract

Schemas stand among the components of a contract and in its operations, and inside other schemas. A
set of positions is closed when it has the schemas among the components and, with a schema, the
positions that the schema holds. Whoever starts at a position of such a set and only ever goes on to
what is held there, or to what a pointer names, does not leave it. The smallest closed set with the
schemas of the operations is that of the positions of the contract.

## Main definitions

* `Parameter.nodes`, `RequestBody.nodes`, `Response.nodes`, `Endpoint.nodes`, `Components.nodes`:
  the positions at which schemas stand in the parts of a contract.
* `Components.Closed`: closed sets of positions.
* `Contract.Stands`: the positions of a contract.

## Main results

* `Contract.closed_stands`: the positions of a contract are closed.
-/

namespace ApiModel

/-! ### Where schemas stand -/

/-- The content that stands in place of a pointer, if it does. -/
def Referable.values {α : Type} : Referable α → List α
  | inline a => [a]
  | ref _ => []

/-- The schema of a parameter. -/
def Parameter.nodes (q : Parameter) : List SchemaNode := q.schema.toList

/-- The schemas of the media types of a content. -/
def Content.nodes (content : Content) : List SchemaNode := content.filterMap fun e => e.2.schema

/-- The schemas of a body. -/
def RequestBody.nodes (b : RequestBody) : List SchemaNode := Content.nodes b.content

/-- The schemas of a response. -/
def Response.nodes (r : Response) : List SchemaNode := Content.nodes r.content

/-- The schemas of what does not stand somewhere else. -/
def nodesOfValues {α : Type} (nodes : α → List SchemaNode) (l : List (Referable α)) :
    List SchemaNode :=
  (l.flatMap Referable.values).flatMap nodes

/-- The schemas that stand in an operation and at its path. -/
def Endpoint.nodes (e : Endpoint) : List SchemaNode :=
  nodesOfValues Parameter.nodes (e.item.parameters ++ e.operation.parameters) ++
    nodesOfValues RequestBody.nodes e.operation.requestBody.toList ++
    nodesOfValues Response.nodes (e.operation.responses.map Prod.snd)

/-- The schemas that stand among components. -/
def Components.nodes (c : Components) : List SchemaNode :=
  c.schemas.map Prod.snd ++ nodesOfValues Parameter.nodes (c.parameters.map Prod.snd) ++
    nodesOfValues RequestBody.nodes (c.requestBodies.map Prod.snd) ++
    nodesOfValues Response.nodes (c.responses.map Prod.snd)

theorem mem_nodesOfValues {α : Type} {nodes : α → List SchemaNode} {l : List (Referable α)}
    {node : SchemaNode} :
    node ∈ nodesOfValues nodes l ↔ ∃ a, .inline a ∈ l ∧ node ∈ nodes a := by
  simp only [nodesOfValues, List.mem_flatMap]
  constructor
  · rintro ⟨a, ⟨q, hq, ha⟩, hnode⟩
    cases q with
    | ref pointer => cases ha
    | inline b =>
      obtain rfl := List.mem_singleton.mp ha
      exact ⟨a, hq, hnode⟩
  · rintro ⟨a, ha, hnode⟩
    exact ⟨a, ⟨.inline a, ha, List.mem_singleton.mpr rfl⟩, hnode⟩

/-- A media type that counts is one of the content. -/
theorem mem_of_preferredMedia {content : Content} {e : String × MediaType}
    (h : preferredMedia content = some e) : e ∈ content := by
  rcases Option.or_eq_some_iff.mp h with h | ⟨-, h⟩
  · exact List.mem_of_find?_eq_some h
  · exact List.mem_of_head? h

/-- The schema of the media type that counts is one of the content. -/
theorem Content.mem_nodes_of_preferredMedia {content : Content} {e : String × MediaType}
    {node : SchemaNode} (h : preferredMedia content = some e) (hnode : e.2.schema = some node) :
    node ∈ Content.nodes content :=
  List.mem_filterMap.mpr ⟨e, mem_of_preferredMedia h, hnode⟩

/-- The response that counts is one of the responses. -/
theorem mem_of_successResponse {responses : Responses} {e : String × Referable Response}
    (h : successResponse responses = some e) : e ∈ responses := by
  rcases Option.or_eq_some_iff.mp h with h | ⟨-, h⟩
  · exact List.mem_of_find?_eq_some h
  rcases Option.or_eq_some_iff.mp h with h | ⟨-, h⟩
  · exact List.mem_of_find?_eq_some h
  · exact List.mem_of_find?_eq_some h

/-! ### Closed sets of positions -/

/-- A set of positions has the schemas among the components, and what its schemas hold. -/
structure Components.Closed (c : Components) (P : SchemaNode → Prop) : Prop where
  nodes : ∀ node ∈ c.nodes, P node
  parts : ∀ s, P (.inline s) → ∀ part ∈ s.parts, P part

/-- The positions of a contract: at a component, in an operation, or inside a schema. -/
inductive Contract.Stands (c : Contract) : SchemaNode → Prop
  | component {node : SchemaNode} (h : node ∈ c.components.nodes) : Stands c node
  | operation {e : Endpoint} {node : SchemaNode} (he : e ∈ c.endpoints) (h : node ∈ e.nodes) :
      Stands c node
  | inside {s : Schema} {part : SchemaNode} (h : Stands c (.inline s)) (hpart : part ∈ s.parts) :
      Stands c part

theorem Contract.closed_stands (c : Contract) : c.components.Closed c.Stands where
  nodes _ h := .component h
  parts _ h _ hpart := .inside h hpart

namespace Components.Closed

variable {c : Components} {P : SchemaNode → Prop} {s : Schema}

/-- A closed set has what pointers name. -/
theorem named (hP : c.Closed P) {name : String} {node : SchemaNode}
    (h : (name, node) ∈ c.schemas) : P node := by
  refine hP.nodes node ?_
  simp only [Components.nodes, List.mem_append]
  exact .inl (.inl (.inl (List.mem_map_of_mem h)))

theorem branch (hP : c.Closed P) (hs : P (.inline s)) {node : SchemaNode}
    (h : node ∈ s.allOf ∨ node ∈ s.oneOf ∨ node ∈ s.anyOf) : P node :=
  hP.parts s hs node (SchemaBody.mem_parts.mpr (.inr (.inr (.inr h))))

theorem property (hP : c.Closed P) (hs : P (.inline s)) {name : String} {node : SchemaNode}
    (h : (name, node) ∈ s.properties) : P node :=
  hP.parts s hs node (SchemaBody.mem_parts.mpr (.inl (List.mem_map_of_mem h)))

theorem parameter (hP : c.Closed P) {name : String} {q : Parameter}
    (h : (name, .inline q) ∈ c.parameters) : ∀ node ∈ q.nodes, P node := by
  intro node hnode
  refine hP.nodes node ?_
  simp only [Components.nodes, List.mem_append, mem_nodesOfValues]
  exact .inl (.inl (.inr ⟨q, List.mem_map_of_mem h, hnode⟩))

theorem requestBody (hP : c.Closed P) {name : String} {b : RequestBody}
    (h : (name, .inline b) ∈ c.requestBodies) : ∀ node ∈ b.nodes, P node := by
  intro node hnode
  refine hP.nodes node ?_
  simp only [Components.nodes, List.mem_append, mem_nodesOfValues]
  exact .inl (.inr ⟨b, List.mem_map_of_mem h, hnode⟩)

theorem response (hP : c.Closed P) {name : String} {r : Response}
    (h : (name, .inline r) ∈ c.responses) : ∀ node ∈ r.nodes, P node := by
  intro node hnode
  refine hP.nodes node ?_
  simp only [Components.nodes, List.mem_append, mem_nodesOfValues]
  exact .inr ⟨r, List.mem_map_of_mem h, hnode⟩

end Components.Closed

end ApiModel
