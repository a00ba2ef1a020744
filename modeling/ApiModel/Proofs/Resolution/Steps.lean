import ApiModel.Proofs.Contract.Positions
import ApiModel.Resolution.Composition
import ApiModel.Resolution.Walk

/-!
# One step on the way

Following pointers, walking to a leaf, checking ancestors and merging branches go from name to name,
and each of them keeps what it has found in order to come to an end. Here is what one step does,
whatever it keeps, and an induction that takes the same steps.

## Main definitions

* `SchemaForm.parts`: the positions to which the way goes on from a schema.

## Main results

* `Components.induction`: induction along pointers to names that are not on the chain, and along the
  positions that a schema holds.
* `follow_eq`: one step along a chain of pointers.
* `Components.walk_ref`, `Components.walk_inline`: one step on the way to a leaf.
* `Components.checkAncestors_eq`: one step to the parent of a parent.
* `Components.flatten_ref`, `Components.flatten_inline`: one step of merging.
-/

namespace ApiModel

theorem follow_eq {α β : Type} (kind : String) (view : β → Referable α)
    (entries : List (String × β)) (location : Option String) (chain : Chain) (pointer : String) :
    follow kind view entries location chain pointer =
      match componentName kind pointer with
      | .error e => .error e
      | .ok name =>
        if name ∈ chain.names then
          .error (.circular (location.getD pointer) (chain.closedBy name))
        else
          match entries.lookup name with
          | none => .error (.missingTarget pointer)
          | some b =>
            match view b with
            | .inline a => .ok a
            | .ref next => follow kind view entries location ⟨chain.closedBy name⟩ next := by
  rw [follow]
  rcases componentName kind pointer with e | name
  · rfl
  · dsimp only
    split
    · rfl
    · split
      next h => simp only [h]
      next b h => rcases hview : view b with a | next <;> simp only [h, hview]

/-! ### The way to a leaf -/

/-- The positions to which the way goes on from a schema. -/
def SchemaForm.parts : SchemaForm → List SchemaNode
  | lone node | array (some node) | map node => [node]
  | _ => []

theorem SchemaBody.mem_parts_typeForm {s : Schema} {part : SchemaNode}
    (h : part ∈ s.typeForm.parts) :
    part ∈ s.items ∨ ∃ a ∈ s.additionalProperties, part ∈ a.parts := by
  rcases s.typeForm_cases with hform | hform | ⟨t, hform⟩ | hform | hform <;> rw [hform] at h
  · exact absurd h List.not_mem_nil
  · exact absurd h List.not_mem_nil
  · exact absurd h List.not_mem_nil
  · rcases hitems : s.items with _ | node <;> rw [hitems] at h
    · exact absurd h List.not_mem_nil
    · exact .inl (by rw [List.mem_singleton.mp h]; rfl)
  · rcases s.mapForm_cases with hmap | hmap | ⟨values, hvalues, hmap⟩ <;> rw [hmap] at h
    · exact absurd h List.not_mem_nil
    · exact absurd h List.not_mem_nil
    · exact .inr ⟨_, hvalues, h⟩

/-- A lone branch of an all-of is its only one. -/
theorem SchemaBody.allOf_of_form_lone (s : Schema) {branch : SchemaNode}
    (h : s.form = .lone branch) : s.allOf = [branch] := by
  rcases s.form_cases with hform | hform | hform | hform | ⟨b, hb, hform⟩ | hform <;>
    rw [h] at hform
  any_goals cases hform
  · exact hb
  · rcases s.typeForm_cases with htype | htype | ⟨t, htype⟩ | htype | htype <;> rw [htype] at hform
    any_goals cases hform
    rcases s.mapForm_cases with hmap | hmap | ⟨values, -, hmap⟩ <;> rw [hmap] at hform <;>
      cases hform

/-- The way goes on to positions that the schema holds. -/
theorem SchemaBody.parts_form_subset (s : Schema) : s.form.parts ⊆ s.parts := by
  intro part h
  rw [mem_parts]
  rcases s.form_cases with hform | hform | hform | hform | ⟨b, hb, hform⟩ | hform <;>
    rw [hform] at h
  · exact absurd h List.not_mem_nil
  · exact absurd h List.not_mem_nil
  · exact absurd h List.not_mem_nil
  · exact absurd h List.not_mem_nil
  · exact .inr (.inr (.inr (.inl (hb ▸ h))))
  · rcases mem_parts_typeForm h with h | h
    · exact .inr (.inr (.inl h))
    · exact .inr (.inl h)

namespace Components

variable (c : Components) (location : String) (chain : Chain) (pointer : String) (s : Schema)

/-- Induction along pointers to names that are not on the chain, and along the positions that a
schema holds. -/
@[elab_as_elim]
theorem induction {motive : Chain → SchemaNode → Prop}
    (ref : ∀ chain pointer, (∀ name target, c.schemas.lookup name = some target →
      name ∉ chain.names → motive ⟨chain.closedBy name⟩ target) → motive chain (.ref pointer))
    (inline : ∀ chain (s : Schema), (∀ part ∈ s.parts, motive chain part) →
      motive chain (.inline s))
    (chain : Chain) (node : SchemaNode) : motive chain node :=
  match node with
  | .ref pointer => ref chain pointer fun name target _found _fresh =>
      induction ref inline ⟨chain.closedBy name⟩ target
  | .inline s => inline chain s fun part _ => induction ref inline chain part
termination_by weightBeyond SchemaNode.size chain.names c.schemas + node.size
decreasing_by
  · have : weightBeyond SchemaNode.size (chain.names ++ [name]) c.schemas + target.size ≤
        weightBeyond SchemaNode.size chain.names c.schemas := weightBeyond_lt _found _fresh
    simp only [Chain.closedBy, SchemaNode.size]
    omega
  · have := SchemaNode.size_lt_of_mem_parts ‹_›
    omega

theorem walk_ref : c.walk chain location (.ref pointer) =
    match componentName "schemas" pointer with
    | .error e => .error e
    | .ok name =>
      match c.schemas.lookup name with
      | none => .error (.missingTarget pointer)
      | some target =>
        if target.isModel then .ok { location, leaf := .model (Name.ofText name).pascalCase }
        else if name ∈ chain.names then .error (.circular location (chain.closedBy name))
        else c.walk ⟨chain.closedBy name⟩ (pointerTo "schemas" name) target := by
  rw [walk]
  rcases componentName "schemas" pointer with e | name
  · rfl
  · dsimp only
    split
    next h => rw [h]
    next h =>
      rw [h]
      rfl

theorem walk_inline : c.walk chain location (.inline s) =
    match s.form with
    | .lone branch => c.walk chain location branch
    | .array (some items) => do
      let w ← c.walk chain (location ++ "/items") items
      let target ← c.target items
      return { w with layers := .array (.ofTarget target) :: w.layers }
    | .array none => .ok { layers := [.array .asIs], location, leaf := .any }
    | .map values => do
      let w ← c.walk chain (location ++ "/additionalProperties") values
      let target ← c.target values
      return { w with layers := .map (.ofTarget target) :: w.layers }
    | .mapOfAny => .ok { layers := [.map .asIs], location, leaf := .any }
    | _ => .ok { location, leaf := .schema s } := by
  rw [walk]
  split
  next h => rw [h]
  next items h =>
    rw [h]
    dsimp only
    rcases c.walk chain (location ++ "/items") items with _ | _ <;>
      rcases c.target items with _ | _ <;> rfl
  next h => rw [h]
  next values h =>
    rw [h]
    dsimp only
    rcases c.walk chain (location ++ "/additionalProperties") values with _ | _ <;>
      rcases c.target values with _ | _ <;> rfl
  next h => rw [h]
  next => simp only

theorem checkAncestors_eq : c.checkAncestors location chain pointer =
    match componentName "schemas" pointer with
    | .error e => .error e
    | .ok name =>
      match c.schemas.lookup name with
      | none => .error (.missingTarget pointer)
      | some ancestor =>
        if name ∈ chain.names then .error (.circular location (chain.closedBy name))
        else
          match ancestor.schema?.bind extensionPointer with
          | none => .ok ()
          | some next => c.checkAncestors location ⟨chain.closedBy name⟩ next := by
  rw [checkAncestors]
  rcases componentName "schemas" pointer with e | name
  · rfl
  · dsimp only
    split
    next h => rw [h]
    next h =>
      rw [h]
      rfl

theorem flatten_ref : c.flatten location chain (.ref pointer) =
    match componentName "schemas" pointer with
    | .error e => { stop := some e }
    | .ok name =>
      match c.schemas.lookup name with
      | none => { stop := some (.missingTarget pointer) }
      | some target =>
        if name ∈ chain.names then
          { stop := some (.circular location (chain.closedBy name)) }
        else c.flatten location ⟨chain.closedBy name⟩ target := by
  rw [flatten]
  rcases componentName "schemas" pointer with e | name
  · rfl
  · dsimp only
    split
    next h => rw [h]
    next h =>
      rw [h]
      rfl

theorem flatten_inline : c.flatten location chain (.inline s) =
    (c.flattenAll location chain s.allOf).append { schemas := [s] } := by
  rw [flatten]

end Components

end ApiModel
