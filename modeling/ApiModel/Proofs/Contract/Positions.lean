import ApiModel.Contract.Schema

/-!
# The positions below a schema

A schema holds further schema positions: those of its properties and of its items, and its branches.
A position has one position more than those that it holds have together, so what holds of a position
as soon as it holds of all that it holds, holds of every position.

## Main definitions

* `SchemaBody.parts`: the positions that a schema holds.

## Main results

* `SchemaNode.size_inline`: the number of positions, by those that a schema holds.
* `SchemaNode.induction`: induction over the positions that a schema holds.
-/

namespace ApiModel

/-- The position that holds for other properties. -/
def Additional.parts {σ : Type} : Additional σ → List σ
  | flag _ => []
  | schema values => [values]

/-- The positions that a schema holds. -/
def SchemaBody.parts (s : Schema) : List SchemaNode :=
  s.properties.map Prod.snd ++ s.additionalProperties.toList.flatMap Additional.parts ++
    s.items.toList ++ s.allOf ++ s.oneOf ++ s.anyOf

theorem SchemaBody.mem_parts {s : Schema} {part : SchemaNode} : part ∈ s.parts ↔
    part ∈ s.properties.map Prod.snd ∨ (∃ a ∈ s.additionalProperties, part ∈ a.parts) ∨
      part ∈ s.items ∨ part ∈ s.allOf ∨ part ∈ s.oneOf ∨ part ∈ s.anyOf := by
  simp only [parts, List.mem_append, List.mem_flatMap, Option.mem_toList, Option.mem_def,
    or_assoc]

/-! ### Counting -/

theorem sizeOfBranches_append (l l' : List SchemaNode) :
    sizeOfBranches (l ++ l') = sizeOfBranches l + sizeOfBranches l' := by
  induction l with
  | nil => rw [List.nil_append, sizeOfBranches, Nat.zero_add]
  | cons b rest ih => rw [List.cons_append, sizeOfBranches, sizeOfBranches, ih, Nat.add_assoc]

/-- Positions that are exchanged for others of their size count as much together. -/
theorem sizeOfBranches_map {f : SchemaNode → SchemaNode} {l : List SchemaNode}
    (h : ∀ b ∈ l, (f b).size = b.size) : sizeOfBranches (l.map f) = sizeOfBranches l := by
  induction l with
  | nil => rfl
  | cons b rest ih =>
    rw [List.map_cons, sizeOfBranches, sizeOfBranches, h b List.mem_cons_self,
      ih fun b hb => h b (List.mem_cons_of_mem _ hb)]

theorem sizeOfProperties_eq (properties : List (String × SchemaNode)) :
    sizeOfProperties properties = sizeOfBranches (properties.map Prod.snd) := by
  induction properties with
  | nil => rfl
  | cons e rest ih => rw [sizeOfProperties, ih, List.map_cons, sizeOfBranches]

theorem sizeOfAdditional_eq (additional : Option (Additional SchemaNode)) :
    sizeOfAdditional additional =
      sizeOfBranches (additional.toList.flatMap Additional.parts) := by
  rcases additional with _ | _ | _ <;> rfl

theorem sizeOfItems_eq (items : Option SchemaNode) :
    sizeOfItems items = sizeOfBranches items.toList := by
  cases items <;> rfl

namespace SchemaNode

/-- A position counts itself and what it holds. -/
theorem size_inline (s : Schema) : (inline s).size = sizeOfBranches s.parts + 1 := by
  obtain ⟨⟩ := s
  simp only [size, sizeOfBody, sizeOfProperties_eq, sizeOfAdditional_eq, sizeOfItems_eq,
    SchemaBody.parts, sizeOfBranches_append]

theorem size_lt_of_mem_parts {s : Schema} {part : SchemaNode} (h : part ∈ s.parts) :
    part.size < (inline s).size := by
  rw [size_inline]
  exact Nat.lt_succ_of_le (size_le_sizeOfBranches h)

/-- Induction over the positions that a schema holds. -/
@[elab_as_elim]
theorem induction {motive : SchemaNode → Prop} (ref : ∀ pointer, motive (.ref pointer))
    (inline : ∀ s : Schema, (∀ part ∈ s.parts, motive part) → motive (.inline s))
    (node : SchemaNode) : motive node :=
  match node with
  | .ref pointer => ref pointer
  | .inline s => inline s fun part _ => induction ref inline part
termination_by node.size
decreasing_by exact size_lt_of_mem_parts ‹_›

end SchemaNode

end ApiModel
