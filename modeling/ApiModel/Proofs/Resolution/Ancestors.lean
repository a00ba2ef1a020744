import ApiModel.Proofs.Resolution.Soundness
import ApiModel.Proofs.Resolution.Steps
import Mathlib.Logic.Relation

/-!
# The schemas above a schema

A schema that extends another one takes it for its parent when that one can be a parent. Before it
does so, the schemas above are gone through one after the other, up to one that extends none, and
none of them may be the schema itself. The way up goes on through schemas that are no parents, and
through all-ofs whose branches are merged.

## Main definitions

* `SchemaBody.Extends`: a schema extends a named schema.
* `Components.Above`: a named schema extends another one.

## Main results

* `Components.exists_of_parentOf`: what is known of a schema that has a parent.
* `Components.notMem_of_checkAncestors`: no schema above is on a chain that has been checked.
-/

namespace ApiModel

/-- A schema is an all-of with a single pointer, to a named schema, among branches that only add
properties. -/
def SchemaBody.Extends (s : Schema) (name : String) : Prop :=
  ∃ pointer, extensionPointer s = some pointer ∧ componentName "schemas" pointer = .ok name

namespace Components

variable {c : Components}

/-- A named schema extends another one. -/
def Above (c : Components) (name above : String) : Prop :=
  ∃ s : Schema, c.schemas.lookup name = some (.inline s) ∧ s.Extends above

theorem name_of_schemaAt {pointer name : String} {node : SchemaNode}
    (h : c.schemaAt pointer = .ok (name, node)) : componentName "schemas" pointer = .ok name := by
  rw [schemaAt] at h
  rcases hname : componentName "schemas" pointer with e | name' <;> rw [hname] at h
  · cases h
  · rcases hschema : c.schema name' with e | node' <;>
      simp only [bind, Except.bind, pure, Except.pure, hschema] at h <;> cases h
    rfl

/-- When the schemas from a pointer on have been checked, none of them is on the chain. -/
theorem notMem_of_checkAncestors {location pointer name above : String} {chain : Chain}
    (h : c.checkAncestors location chain pointer = .ok ())
    (hname : componentName "schemas" pointer = .ok name)
    (habove : Relation.ReflTransGen c.Above name above) : above ∉ chain.names := by
  induction habove using Relation.ReflTransGen.head_induction_on generalizing chain pointer with
  | refl =>
    rw [checkAncestors_eq, hname] at h
    dsimp only at h
    split at h
    · cases h
    split at h
    · cases h
    · assumption
  | @head name _ hstep _ ih =>
    obtain ⟨s, hfound, next, hnext, hnextName⟩ := hstep
    have hrest : c.checkAncestors location ⟨chain.closedBy name⟩ next = .ok () := by
      rw [checkAncestors_eq, hname] at h
      dsimp only at h
      rw [hfound] at h
      dsimp only at h
      split at h
      · cases h
      · simpa only [SchemaNode.schema?_inline, Option.bind_some, hnext] using h
    exact fun hmem => ih hrest hnextName (List.mem_append_left _ hmem)

/-- A schema that has a parent extends it, and is not above it. -/
theorem exists_of_parentOf {origin location parent : String} {s : Schema}
    (h : c.parentOf origin s location = .ok (some parent)) :
    ∃ name node, s.Extends name ∧ c.schemas.lookup name = some node ∧ node.isParent = true ∧
      parent = (Name.ofText name).pascalCase ∧ ¬Relation.ReflTransGen c.Above name origin := by
  rw [parentOf] at h
  rcases hpointer : extensionPointer s with _ | pointer <;> rw [hpointer] at h
  · cases h
  dsimp only at h
  rcases hat : c.schemaAt pointer with e | ⟨name, node⟩ <;> rw [hat] at h
  · cases h
  simp only [bind, Except.bind, pure, Except.pure] at h
  split at h
  next hnode =>
    rcases hcheck : c.checkAncestors location ⟨[origin]⟩ pointer with e | _ <;> rw [hcheck] at h <;>
      cases h
    have hname : componentName "schemas" pointer = .ok name := name_of_schemaAt hat
    refine ⟨name, node, ⟨pointer, hpointer, hname⟩, schemaAt_eq_ok hat, hnode, rfl, ?_⟩
    intro habove
    exact notMem_of_checkAncestors hcheck hname habove (List.mem_singleton.mpr rfl)
  next => cases h

end Components

end ApiModel
