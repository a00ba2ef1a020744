import ApiModel.Contract.Schema

/-!
# The form of a schema

A schema may have an enum, branches, properties and a type at once. Its form is what counts,
in this order.

## Main definitions

* `SchemaForm`: the forms.
* `SchemaBody.form`: the form of a schema.
-/

namespace ApiModel

/-- What counts in a schema. -/
inductive SchemaForm where
  | enum
  | union
  | lone (branch : SchemaNode)
  | composed
  | object
  | alternatives (types : List SchemaType)
  | array (items : Option SchemaNode)
  | map (values : SchemaNode)
  | mapOfAny
  | primitive (type : SchemaType)
  | any

namespace SchemaBody

variable (s : Schema)

/-- The form of an object without named properties. -/
def mapForm : SchemaForm :=
  match s.additionalProperties with
  | some (.schema values) => .map values
  | some (.flag true) => .mapOfAny
  | some (.flag false) | none => .any

/-- The form of a schema without enum, branches and properties, by its type. -/
def typeForm : SchemaForm :=
  if 1 < s.typeAlternatives.length then .alternatives s.typeAlternatives
  else
    match s.primaryType with
    | some .array => .array s.items
    | some .object => s.mapForm
    | some .null => .any
    | some t => .primitive t
    | none =>
      if s.items.isSome then .array s.items
      else if s.additionalProperties.isSome then s.mapForm
      else .any

/-- The form of a schema. A lone branch of an all-of is all there is, unless the schema has
properties of its own. -/
def form : SchemaForm :=
  if s.isEnum then .enum
  else if s.isUnion then .union
  else
    match s.allOf with
    | [] => if s.hasProperties then .object else s.typeForm
    | [branch] => if s.hasProperties then .composed else .lone branch
    | _ => .composed

/-! ### Which parts a form holds -/

theorem mapForm_cases :
    s.mapForm = .any ∨ s.mapForm = .mapOfAny ∨
      ∃ v, s.additionalProperties = some (.schema v) ∧ s.mapForm = .map v := by
  unfold mapForm
  split
  · next v hv => exact .inr (.inr ⟨v, hv, rfl⟩)
  · exact .inr (.inl rfl)
  · exact .inl rfl
  · exact .inl rfl

theorem typeForm_cases :
    s.typeForm = .any ∨ s.typeForm = .alternatives s.typeAlternatives ∨
      (∃ t, s.typeForm = .primitive t) ∨ s.typeForm = .array s.items ∨
        s.typeForm = s.mapForm := by
  unfold typeForm
  split
  · exact .inr (.inl rfl)
  · split
    · exact .inr (.inr (.inr (.inl rfl)))
    · exact .inr (.inr (.inr (.inr rfl)))
    · exact .inl rfl
    · exact .inr (.inr (.inl ⟨_, rfl⟩))
    · split
      · exact .inr (.inr (.inr (.inl rfl)))
      · split
        · exact .inr (.inr (.inr (.inr rfl)))
        · exact .inl rfl

theorem form_cases :
    s.form = .enum ∨ s.form = .union ∨ s.form = .composed ∨ s.form = .object ∨
      (∃ b, s.allOf = [b] ∧ s.form = .lone b) ∨ s.form = s.typeForm := by
  unfold form
  split
  · exact .inl rfl
  · split
    · exact .inr (.inl rfl)
    · split
      · split
        · exact .inr (.inr (.inr (.inl rfl)))
        · exact .inr (.inr (.inr (.inr (.inr rfl))))
      · next b hb =>
        split
        · exact .inr (.inr (.inl rfl))
        · exact .inr (.inr (.inr (.inr (.inl ⟨b, hb, rfl⟩))))
      · exact .inr (.inr (.inl rfl))

/-- The lone branch of an all-of is smaller than the schema. -/
theorem size_of_form_lone {b : SchemaNode} (h : s.form = .lone b) :
    b.size ≤ sizeOfBody s := by
  rcases s.form_cases with h' | h' | h' | h' | ⟨c, hc, h'⟩ | h' <;> rw [h] at h'
  any_goals cases h'
  · have := s.size_allOf_le
    rw [hc] at this
    simp only [sizeOfBranches] at this
    omega
  · rcases s.typeForm_cases with e | e | ⟨t, e⟩ | e | e <;> rw [e] at h'
    any_goals cases h'
    rcases s.mapForm_cases with e | e | ⟨v, _, e⟩ <;> rw [e] at h' <;> cases h'

/-- The items of an array are smaller than the schema. -/
theorem size_of_form_array {i : SchemaNode} (h : s.form = .array (some i)) :
    i.size ≤ sizeOfBody s := by
  rcases s.form_cases with h' | h' | h' | h' | ⟨c, _, h'⟩ | h' <;> rw [h] at h'
  any_goals cases h'
  rcases s.typeForm_cases with e | e | ⟨t, e⟩ | e | e <;> rw [e] at h'
  any_goals cases h'
  · exact s.size_items_le (SchemaForm.array.inj h').symm
  · rcases s.mapForm_cases with e | e | ⟨v, _, e⟩ <;> rw [e] at h' <;> cases h'

/-- The values of a map are smaller than the schema. -/
theorem size_of_form_map {v : SchemaNode} (h : s.form = .map v) : v.size ≤ sizeOfBody s := by
  rcases s.form_cases with h' | h' | h' | h' | ⟨c, _, h'⟩ | h' <;> rw [h] at h'
  any_goals cases h'
  rcases s.typeForm_cases with e | e | ⟨t, e⟩ | e | e <;> rw [e] at h'
  any_goals cases h'
  rcases s.mapForm_cases with e | e | ⟨w, hw, e⟩ <;> rw [e] at h'
  any_goals cases h'
  exact s.size_additional_le hw

end SchemaBody

end ApiModel
