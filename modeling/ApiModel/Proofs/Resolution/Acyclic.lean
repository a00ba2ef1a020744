import ApiModel.Proofs.Contract.Positions
import ApiModel.Resolution.Composition
import ApiModel.Resolution.Walk
import Mathlib.Logic.Relation

/-!
# Contracts without cycles

A component points to another one of its section when some pointer in it names that one. A contract
has no cycle when no component leads back to itself in this way, be it over pointers at any depth.

Whatever follows pointers keeps a chain of the names that it has passed. As long as every name on
the chain leads to all names to which it may go on, the next name cannot be on the chain where there
are no cycles.

## Main definitions

* `SchemaNode.pointers`: the pointers at all positions below a position.
* `PointsTo`, `NoCycle`, `Components.Acyclic`: when a contract has no cycle.
* `Chain.Leads`: every name on a chain leads to what some pointers name.

## Main results

* `SchemaNode.pointers_inline`: the pointers in a schema are those in its parts.
* `noCycle_of_descends`: a contract in which pointers only descend has no cycle.
* `Chain.Leads.notMem`, `Chain.Leads.enter`: the next name is not on the chain, and is put on it.
-/

namespace ApiModel

/-! ### Pointers at any depth -/

mutual

/-- The pointers at a position and at all positions below it. -/
def SchemaNode.pointers : SchemaNode → List String
  | .ref pointer => [pointer]
  | .inline s => pointersOfBody s

/-- The pointers below a schema. -/
def pointersOfBody : SchemaBody SchemaNode → List String
  | { properties, additionalProperties, items, allOf, oneOf, anyOf, .. } =>
    pointersOfProperties properties ++ pointersOfAdditional additionalProperties ++
      pointersOfItems items ++ pointersOfBranches allOf ++ pointersOfBranches oneOf ++
      pointersOfBranches anyOf

/-- The pointers in named properties. -/
def pointersOfProperties : List (String × SchemaNode) → List String
  | [] => []
  | (_, p) :: rest => p.pointers ++ pointersOfProperties rest

/-- The pointers in other properties. -/
def pointersOfAdditional : Option (Additional SchemaNode) → List String
  | some (.schema s) => s.pointers
  | _ => []

/-- The pointers in items. -/
def pointersOfItems : Option SchemaNode → List String
  | some s => s.pointers
  | none => []

/-- The pointers in branches. -/
def pointersOfBranches : List SchemaNode → List String
  | [] => []
  | s :: rest => s.pointers ++ pointersOfBranches rest

end

theorem pointersOfBranches_eq (branches : List SchemaNode) :
    pointersOfBranches branches = branches.flatMap SchemaNode.pointers := by
  induction branches with
  | nil => rfl
  | cons b rest ih => rw [pointersOfBranches, ih, List.flatMap_cons]

theorem pointersOfProperties_eq (properties : List (String × SchemaNode)) :
    pointersOfProperties properties = (properties.map Prod.snd).flatMap SchemaNode.pointers := by
  induction properties with
  | nil => rfl
  | cons e rest ih => rw [pointersOfProperties, ih, List.map_cons, List.flatMap_cons]

theorem pointersOfAdditional_eq (additional : Option (Additional SchemaNode)) :
    pointersOfAdditional additional =
      (additional.toList.flatMap Additional.parts).flatMap SchemaNode.pointers := by
  rcases additional with _ | _ | s
  · rfl
  · rfl
  · exact (List.append_nil _).symm

theorem pointersOfItems_eq (items : Option SchemaNode) :
    pointersOfItems items = items.toList.flatMap SchemaNode.pointers := by
  cases items with
  | none => rfl
  | some s => exact (List.append_nil _).symm

namespace SchemaNode

/-- The pointers in a schema are those in its parts. -/
theorem pointers_inline (s : Schema) : (inline s).pointers = s.parts.flatMap pointers := by
  obtain ⟨⟩ := s
  simp only [pointers, pointersOfBody, pointersOfProperties_eq, pointersOfAdditional_eq,
    pointersOfItems_eq, pointersOfBranches_eq, SchemaBody.parts, List.flatMap_append]

theorem pointers_subset_of_mem_parts {s : Schema} {part : SchemaNode} (h : part ∈ s.parts) :
    part.pointers ⊆ (inline s).pointers := by
  intro pointer hpointer
  rw [pointers_inline]
  exact List.mem_flatMap.mpr ⟨part, h, hpointer⟩

end SchemaNode

/-- The pointer at a position that may be one. -/
def Referable.pointers {α : Type} : Referable α → List String
  | ref pointer => [pointer]
  | inline _ => []

/-! ### Cycles -/

section Cycles

variable {β : Type} {kind : String} {pointers : β → List String} {entries : List (String × β)}

/-- A component of a section points to another one. -/
def PointsTo (kind : String) (pointers : β → List String) (entries : List (String × β))
    (a b : String) : Prop :=
  ∃ e, (a, e) ∈ entries ∧ ∃ pointer ∈ pointers e, componentName kind pointer = .ok b

/-- No component of a section leads back to itself. -/
def NoCycle (kind : String) (pointers : β → List String) (entries : List (String × β)) : Prop :=
  ∀ name, ¬Relation.TransGen (PointsTo kind pointers entries) name name

/-- Whether all pointers lead to components of a lower rank. -/
def descends (kind : String) (pointers : β → List String) (entries : List (String × β))
    (rank : String → Nat) : Bool :=
  entries.all fun e => (pointers e.2).all fun pointer =>
    match componentName kind pointer with
    | .ok name => rank name < rank e.1
    | .error _ => true

/-- Where pointers only descend there is no cycle. -/
theorem noCycle_of_descends (rank : String → Nat)
    (h : descends kind pointers entries rank = true) : NoCycle kind pointers entries := by
  have hstep {a b : String} (hab : PointsTo kind pointers entries a b) : rank b < rank a := by
    obtain ⟨e, he, pointer, hpointer, hname⟩ := hab
    have hall := List.all_eq_true.mp (List.all_eq_true.mp h (a, e) he) pointer hpointer
    rw [hname] at hall
    exact of_decide_eq_true hall
  have hpath {a b : String} (hab : Relation.TransGen (PointsTo kind pointers entries) a b) :
      rank b < rank a := by
    induction hab with
    | single hab => exact hstep hab
    | tail _ hbc ih => exact Nat.lt_trans (hstep hbc) ih
  exact fun name hname => Nat.lt_irrefl _ (hpath hname)

/-! ### Chains -/

/-- Every name on a chain leads to each component that some pointers name. -/
def Chain.Leads (kind : String) (pointers : β → List String) (entries : List (String × β))
    (chain : Chain) (targets : List String) : Prop :=
  ∀ pointer ∈ targets, ∀ name, componentName kind pointer = .ok name →
    ∀ n ∈ chain.names, Relation.TransGen (PointsTo kind pointers entries) n name

namespace Chain.Leads

variable {chain : Chain} {targets : List String} {pointer name : String} {e : β}

theorem empty (targets : List String) : Leads kind pointers entries .empty targets :=
  fun _ _ _ _ _ hn => nomatch hn

theorem mono {targets' : List String} (h : chain.Leads kind pointers entries targets)
    (hsub : targets' ⊆ targets) : chain.Leads kind pointers entries targets' :=
  fun pointer hpointer => h pointer (hsub hpointer)

/-- Where there are no cycles, a name that a pointer names is not on the chain. -/
theorem notMem (hc : NoCycle kind pointers entries) (h : chain.Leads kind pointers entries targets)
    (hpointer : pointer ∈ targets) (hname : componentName kind pointer = .ok name) :
    name ∉ chain.names :=
  fun hmem => hc name (h pointer hpointer name hname name hmem)

/-- A name that a pointer names is put on the chain, and the way goes on from its component. -/
theorem enter (h : chain.Leads kind pointers entries targets) (hpointer : pointer ∈ targets)
    (hname : componentName kind pointer = .ok name) (he : (name, e) ∈ entries) :
    Leads kind pointers entries ⟨chain.closedBy name⟩ (pointers e) := by
  intro next hnext name' hname' n hn
  have hstep : PointsTo kind pointers entries name name' := ⟨e, he, next, hnext, hname'⟩
  rcases List.mem_append.mp hn with hn | hn
  · exact (h pointer hpointer name hname n hn).tail hstep
  · obtain rfl := List.mem_singleton.mp hn
    exact .single hstep

end Chain.Leads

end Cycles

/-- No component of a contract leads back to itself. -/
structure Components.Acyclic (c : Components) : Prop where
  schemas : NoCycle "schemas" SchemaNode.pointers c.schemas
  parameters : NoCycle "parameters" Referable.pointers c.parameters
  requestBodies : NoCycle "requestBodies" Referable.pointers c.requestBodies
  responses : NoCycle "responses" Referable.pointers c.responses

end ApiModel
