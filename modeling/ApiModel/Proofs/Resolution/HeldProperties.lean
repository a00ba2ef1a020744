import ApiModel.Proofs.Document.Entries
import ApiModel.Proofs.Resolution.Ancestors
import ApiModel.Proofs.Resolution.Detectors
import ApiModel.Proofs.Resolution.Expanding
import ApiModel.Proofs.Resolution.ModelForm

/-!
# The properties that a model holds

A schema can be a parent because it has properties or branches, whatever else it has. What its model
will be is decided in another order: an enum and a union come before the properties, and branches
that are merged into a value leave none. So a parent may have properties that its model does not
hold.

## Main definitions

* `Components.HasParent`: a schema extends one that can be a parent.
* `Components.HoldsProperties`: a schema whose model holds its properties.

## Main results

* `Components.mem_properties_of_modelForm`: the model of such a schema holds all its properties.
* `Components.properties_eq_nil_of_modelForm`: the model of any other parent holds none.
-/

namespace ApiModel

/-- Among the properties that a schema adds to those of its parent are its own. -/
theorem mem_inheritedProperties {s : Schema} {q : String} (hq : q ∈ s.properties.map Prod.fst) :
    q ∈ (inheritedProperties s).map Property.name := by
  rw [inheritedProperties, List.map_map]
  change q ∈ ((s.allOf.filterMap SchemaNode.schema? ++ [s]).foldl addProperties []).map Prod.fst
  rw [List.foldl_append, List.foldl_cons, List.foldl_nil]
  exact (mem_keys_foldl_setEntry Prod.fst (fun acc e =>
    (e.2, s.isRequired e.1 || (acc.lookup e.1).any Prod.snd)) s.properties _).mpr (.inl hq)

namespace Merged

variable {location : String} {schemas : List Schema} {m m' : Merged}

/-- Merging more schemas loses no property. -/
theorem mem_properties_of_addAll (h : m.addAll location schemas = .ok m') {q : String}
    (hq : q ∈ m.properties.map Prod.fst ∨ ∃ s ∈ schemas, q ∈ s.properties.map Prod.fst) :
    q ∈ m'.properties.map Prod.fst := by
  induction schemas generalizing m with
  | nil =>
    cases h
    exact hq.resolve_right (by simp)
  | cons s rest ih =>
    rw [addAll] at h
    split at h
    · cases h
    have hadd : q ∈ (m.add s).properties.map Prod.fst ↔
        q ∈ s.properties.map Prod.fst ∨ q ∈ m.properties.map Prod.fst :=
      mem_keys_foldl_setEntry Prod.fst (fun _ e => e.2) s.properties m.properties
    refine ih h ?_
    rcases hq with hq | ⟨s', hs', hq⟩
    · exact .inl (hadd.mpr (.inr hq))
    rcases List.mem_cons.mp hs' with rfl | hs'
    · exact .inl (hadd.mpr (.inl hq))
    · exact .inr ⟨s', hs', hq⟩

/-- A schema that can be merged stands for what has been merged. -/
theorem kind_add_of_fault {s : Schema} {k : MergeKind} (h : m.fault? s = none)
    (hk : s.mergeKind = some k) : (m.add s).kind = some k := by
  rw [fault?] at h
  split at h
  · cases h
  rw [hk] at h
  rcases hm : m.kind with _ | seen
  · simp only [add, hm, hk, Option.none_or]
  · rw [hm] at h
    by_cases hseen : seen = k
    · simp only [add, hm, hseen, Option.some_or]
    · simp only [if_neg hseen] at h
      cases h

/-- What one of the merged schemas stands for, all of them stand for. -/
theorem kind_of_addAll (h : m.addAll location schemas = .ok m') {k : MergeKind}
    (hk : m.kind = some k ∨ ∃ s ∈ schemas, s.mergeKind = some k) : m'.kind = some k := by
  induction schemas generalizing m with
  | nil =>
    cases h
    exact hk.resolve_right (by simp)
  | cons s rest ih =>
    rw [addAll] at h
    split at h
    · cases h
    next hfault =>
      refine ih h ?_
      rcases hk with hk | ⟨s', hs', hk⟩
      · exact .inl (Option.or_eq_some_iff.mpr (.inl hk))
      rcases List.mem_cons.mp hs' with rfl | hs'
      · exact .inl (kind_add_of_fault hfault hk)
      · exact .inr ⟨s', hs', hk⟩

/-- Schemas that stand for an object become one with the merged properties. -/
theorem names_form_of_object (h : m.kind = some .object) :
    m.form.properties.map Property.name = m.properties.map Prod.fst := by
  rw [form, h]
  simp only [ModelForm.properties, toProperties, List.map_map]
  rfl

/-- Schemas that stand for a value become nothing that has properties. -/
theorem form_of_value {type : SchemaType} (h : m.kind = some (.value type)) :
    m.form.properties = [] ∧ m.form.parent = none := by
  rw [form, h]
  cases m.value with
  | none => exact ⟨rfl, rfl⟩
  | some => exact ⟨rfl, rfl⟩

/-- What becomes another name stands for the value of the merged schemas. -/
theorem exists_value_of_form {node : SchemaNode} (h : m.form = .synonym node) :
    ∃ value, m.value = some value ∧ node = .inline value := by
  rw [form] at h
  split at h <;> cases h
  next hvalue => exact ⟨_, hvalue, rfl⟩

end Merged

namespace SchemaBody

variable {s : Schema}

theorem mergeKind_of_object (hproperties : s.properties ≠ [])
    (htype : s.primaryType = none ∨ s.primaryType = some .object) :
    s.mergeKind = some .object := by
  rw [mergeKind]
  rcases htype with htype | htype <;> rw [htype]
  simp [hproperties]

theorem mergeKind_of_value {type : SchemaType} (htype : s.primaryType = some type)
    (hother : type ≠ .object) : s.mergeKind = some (.value type) := by
  rw [mergeKind, htype]
  cases type with
  | object => exact absurd rfl hother
  | _ => rfl

end SchemaBody

namespace Components

variable {c : Components} {origin location : String} {s : Schema} {form : ModelForm}

/-- Among the merged schemas of an all-of is the schema itself. -/
theorem exists_of_merge {merged : Merged} (h : c.merge location s = .ok merged) :
    ∃ schemas, s ∈ schemas ∧ ({} : Merged).addAll location schemas = .ok merged := by
  obtain ⟨hadd, hstop⟩ := merge_eq_ok h
  refine ⟨_, ?_, hadd⟩
  rw [flatten_inline, Flattened.append] at hstop ⊢
  split at hstop
  next hbranches =>
    rw [hstop] at hbranches
    cases hbranches
  next hbranches =>
    rw [if_neg hbranches]
    exact List.mem_append_right _ (List.mem_singleton.mpr rfl)

/-- A schema extends one that can be a parent. -/
def HasParent (c : Components) (s : Schema) : Prop :=
  ∃ name node, s.Extends name ∧ c.schemas.lookup name = some node ∧ node.isParent = true

theorem HasParent.allOf_ne_nil (h : c.HasParent s) : s.allOf ≠ [] := by
  obtain ⟨_, _, ⟨pointer, hpointer, -⟩, -, -⟩ := h
  exact List.ne_nil_of_mem (ref_mem_allOf_of_extensionPointer hpointer)

/-- A schema whose model holds its properties: it is neither an enum nor a union, and it extends a
parent or is an object by its type. -/
structure HoldsProperties (c : Components) (s : Schema) : Prop where
  noEnum : s.isEnum = false
  noUnion : s.isUnion = false
  object : c.HasParent s ∨ s.primaryType = none ∨ s.primaryType = some .object

theorem not_hasParent_of_parentOf (h : c.parentOf origin s location = .ok none) :
    ¬c.HasParent s := by
  rintro ⟨name, node, ⟨pointer, hpointer, hname⟩, hfound, hnode⟩
  have hat : c.schemaAt pointer = .ok (name, node) := by
    simp only [schemaAt, hname, schema, hfound, bind, Except.bind, pure, Except.pure]
  rw [parentOf, hpointer] at h
  simp only [hat, bind, Except.bind, pure, Except.pure, if_pos hnode] at h
  rcases hcheck : c.checkAncestors location ⟨[origin]⟩ pointer with e | _ <;> rw [hcheck] at h <;>
    cases h

/-- What becomes of an all-of. -/
theorem composedForm_cases (h : c.composedForm origin location s = .ok form) :
    (s.properties = [] ∧ ∃ branch, s.allOf = [branch] ∧ form = .synonym branch) ∨
      (c.HasParent s ∧ ∃ parent, form = .object (some parent) (inheritedProperties s)
        s.discriminator) ∨
      ¬c.HasParent s ∧ ∃ merged, c.merge location s = .ok merged ∧ form = merged.form := by
  rw [composedForm] at h
  split at h
  next branch hallOf hnone =>
    cases h
    exact .inl ⟨hnone, branch, hallOf, rfl⟩
  refine .inr ?_
  rcases hof : c.parentOf origin s location with e | _ | parent <;> rw [hof] at h
  · cases h
  · rcases hmerge : c.merge location s with e | merged <;> rw [hmerge] at h <;> cases h
    exact .inr ⟨not_hasParent_of_parentOf hof, merged, rfl, rfl⟩
  · cases h
    obtain ⟨name, node, hextends, hfound, hnode, -, -⟩ := exists_of_parentOf hof
    exact .inl ⟨⟨name, node, hextends, hfound, hnode⟩, parent, rfl⟩

/-- Where nothing else comes first, a schema has named properties by its type. -/
theorem hasProperties_iff (hproperties : s.properties ≠ []) :
    s.hasProperties = true ↔ s.primaryType = none ∨ s.primaryType = some .object := by
  simp [SchemaBody.hasProperties, hproperties, or_comm]

/-- The model of such a schema holds all its properties. -/
theorem mem_properties_of_modelForm (h : c.modelForm origin location s = .ok form)
    (hs : c.HoldsProperties s) {q : String} (hq : q ∈ s.properties.map Prod.fst) :
    q ∈ form.properties.map Property.name := by
  have hproperties : s.properties ≠ [] := by
    rintro hnone
    rw [hnone] at hq
    cases hq
  rw [modelForm, hs.noEnum, hs.noUnion] at h
  simp only [Bool.false_eq_true, if_false] at h
  split at h
  next =>
    rcases composedForm_cases h with ⟨hnone, -⟩ | ⟨-, parent, rfl⟩ | ⟨hnone, merged, hmerge, rfl⟩
    · exact absurd hnone hproperties
    · exact mem_inheritedProperties hq
    · obtain ⟨schemas, hmem, hadd⟩ := exists_of_merge hmerge
      have hkind : merged.kind = some .object := Merged.kind_of_addAll hadd
        (.inr ⟨s, hmem, SchemaBody.mergeKind_of_object hproperties (hs.object.resolve_left hnone)⟩)
      rw [Merged.names_form_of_object hkind]
      exact Merged.mem_properties_of_addAll hadd (.inr ⟨s, hmem, hq⟩)
  next hnone =>
    have hallOf : s.allOf = [] := by simpa using hnone
    have htype : s.hasProperties = true := (hasProperties_iff hproperties).mpr
      (hs.object.resolve_left fun hparent => hparent.allOf_ne_nil hallOf)
    rw [if_pos htype] at h
    cases h
    rw [ModelForm.properties, SchemaBody.ownProperties, List.map_map]
    exact hq

/-- The model of any other schema that can be a parent holds no property, and has no parent. -/
theorem properties_eq_nil_of_modelForm (h : c.modelForm origin location s = .ok form)
    (hparent : (SchemaNode.inline s).isParent = true) (hs : ¬c.HoldsProperties s) :
    form.properties = [] ∧ form.parent = none := by
  rw [modelForm] at h
  split at h
  · cases h
    exact ⟨rfl, rfl⟩
  next hnoEnum =>
  split at h
  · cases h
    exact ⟨rfl, rfl⟩
  next hnoUnion =>
  have hother : ¬(c.HasParent s ∨ s.primaryType = none ∨ s.primaryType = some .object) :=
    fun hobject => hs ⟨by simpa using hnoEnum, by simpa using hnoUnion, hobject⟩
  split at h
  next =>
    rcases composedForm_cases h with ⟨-, branch, -, rfl⟩ | ⟨hparent, -⟩ | ⟨-, merged, hmerge, rfl⟩
    · exact ⟨rfl, rfl⟩
    · exact absurd (.inl hparent) hother
    · obtain ⟨type, htype⟩ : ∃ type, s.primaryType = some type :=
        Option.ne_none_iff_exists'.mp fun hnone => hother (.inr (.inl hnone))
      have hvalue : type ≠ .object := by
        rintro rfl
        exact hother (.inr (.inr htype))
      obtain ⟨schemas, hmem, hadd⟩ := exists_of_merge hmerge
      exact Merged.form_of_value (Merged.kind_of_addAll hadd
        (.inr ⟨s, hmem, SchemaBody.mergeKind_of_value htype hvalue⟩))
  next hnone =>
    have hhas : s.hasProperties = true := by
      simpa [SchemaNode.isParent, hnone] using hparent
    have hproperties : s.properties ≠ [] := by
      rintro hnil
      simp [SchemaBody.hasProperties, hnil] at hhas
    exact absurd (.inr ((hasProperties_iff hproperties).mp hhas)) hother

end Components

end ApiModel
