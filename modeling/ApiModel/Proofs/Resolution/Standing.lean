import ApiModel.Proofs.Contract.Standing
import ApiModel.Proofs.Resolution.Expanding
import ApiModel.Proofs.Resolution.Following
import ApiModel.Proofs.Resolution.HeldProperties

/-!
# Resolving stays inside the contract

On its way from a position a resolver goes on to what the position holds, and to what pointers name.
So it never leaves a closed set of positions: the leaf to which the way from a position leads stands
in the set, and so do all parts of the form that a schema takes, whether its branches extend a
parent or are merged.

## Main definitions

* `ModelForm.Within`: the parts of a form stand in a set of positions.

## Main results

* `Components.Closed.leaf_of_walk`: the way to a leaf.
* `Components.Closed.merge`: what branches are merged into.
* `Components.Closed.modelForm`, `Components.Closed.componentForm`: what a schema becomes.
-/

namespace ApiModel

/-! ### What stands in a set of positions -/

/-- A discriminator is that of a schema in a set of positions. -/
def ContractDiscriminator.Within (P : SchemaNode → Prop) (d : ContractDiscriminator) : Prop :=
  ∃ s, P (.inline s) ∧ s.discriminator = some d

/-- What has been merged comes of schemas in a set of positions. -/
structure Merged.Within (P : SchemaNode → Prop) (m : Merged) : Prop where
  properties : ∀ e ∈ m.properties, P e.2
  value : ∀ s ∈ m.value, P (.inline s)
  discriminator : ∀ d ∈ m.discriminator, d.Within P

/-- The parts of a form stand in a set of positions. -/
def ModelForm.Within (P : SchemaNode → Prop) : ModelForm → Prop
  | enum _ => True
  | union s => P (.inline s)
  | synonym node => P node
  | object _ properties d => (∀ q ∈ properties, P q.node) ∧ ∀ d' ∈ d, d'.Within P

variable {P : SchemaNode → Prop}

namespace Merged

variable {m m' : Merged} {s : Schema}

theorem within_nothing : ({} : Merged).Within P where
  properties := List.forall_mem_nil _
  value _ hs := by cases hs
  discriminator _ hd := by cases hd

theorem Within.add (h : m.Within P) (hs : P (.inline s))
    (hproperties : ∀ e ∈ s.properties, P e.2) : (m.add s).Within P where
  properties := forall_foldl_setEntry (fun _ => hproperties) h.properties
  value s' hs' := by
    rcases Option.or_eq_some_iff.mp hs' with hs' | ⟨-, hs'⟩
    · exact h.value s' hs'
    · split at hs' <;> cases hs'
      exact hs
  discriminator d hd := by
    rcases Option.or_eq_some_iff.mp hd with hd | ⟨-, hd⟩
    · exact h.discriminator d hd
    · exact ⟨s, hs, hd⟩

theorem Within.addAll {location : String} {schemas : List Schema} (h : m.Within P)
    (hschemas : ∀ s ∈ schemas, P (.inline s) ∧ ∀ e ∈ s.properties, P e.2)
    (hadd : m.addAll location schemas = .ok m') : m'.Within P := by
  induction schemas generalizing m with
  | nil =>
    cases hadd
    exact h
  | cons s rest ih =>
    rw [Merged.addAll] at hadd
    split at hadd
    · cases hadd
    obtain ⟨⟨hs, hproperties⟩, hrest⟩ := List.forall_mem_cons.mp hschemas
    exact ih (h.add hs hproperties) hrest hadd

theorem Within.form (h : m.Within P) : m.form.Within P := by
  have hproperties : ∀ q ∈ m.toProperties, P q.node := by
    intro q hq
    obtain ⟨e, he, rfl⟩ := List.mem_map.mp hq
    exact h.properties e he
  rw [Merged.form]
  split
  next hvalue => exact h.value _ hvalue
  next => exact ⟨List.forall_mem_nil _, by simp⟩
  next => exact ⟨hproperties, h.discriminator⟩

end Merged

/-! ### Parameters -/

theorem eq_or_mem_of_mem_insertParameter {q q' : Parameter} {parameters : List Parameter}
    (h : q ∈ insertParameter q' parameters) : q = q' ∨ q ∈ parameters := by
  induction parameters with
  | nil => exact .inl (List.mem_singleton.mp h)
  | cons first rest ih =>
    rw [insertParameter] at h
    split at h
    · exact (List.mem_cons.mp h).imp_right (List.mem_cons_of_mem _)
    · rcases List.mem_cons.mp h with rfl | h
      · exact .inr List.mem_cons_self
      · exact (ih h).imp_right (List.mem_cons_of_mem _)

/-- The parameters of an operation are among those that are declared. -/
theorem mem_of_mem_mergeParameters {declared : List Parameter} {q : Parameter}
    (h : q ∈ mergeParameters declared) : q ∈ declared := by
  have hfold (l acc : List Parameter) (h : q ∈ l.foldl (fun acc q => insertParameter q acc) acc) :
      q ∈ acc ∨ q ∈ l := by
    induction l generalizing acc with
    | nil => exact .inl h
    | cons first rest ih =>
      rcases ih _ h with h | h
      · rcases eq_or_mem_of_mem_insertParameter h with rfl | h
        · exact .inr List.mem_cons_self
        · exact .inl h
      · exact .inr (List.mem_cons_of_mem _ h)
  exact (hfold declared [] h).resolve_left List.not_mem_nil

namespace Components.Closed

variable {c : Components} (hP : c.Closed P) {s : Schema} {node : SchemaNode} {chain : Chain}
  {location : String}

include hP

/-! ### The way to a leaf -/

/-- The way from a position leads to a schema in the set. -/
theorem leaf_of_walk {w : Walk} (h : c.walk chain location node = .ok w) (hnode : P node) :
    ∀ s, w.leaf = .schema s → P (.inline s) := by
  have hform {s : Schema} {part : SchemaNode} (hs : P (.inline s)) (hpart : part ∈ s.form.parts) :
      P part := hP.parts s hs part (s.parts_form_subset hpart)
  fun_induction c.walk chain location node generalizing w with
  | case1 => cases h
  | case2 => cases h
  | case3 =>
    cases h
    intro s hs
    cases hs
  | case4 => cases h
  | case5 _ _ _ _ _ target hfound _ _ ih => exact ih h (hP.named (mem_of_lookup_eq_some hfound))
  | case6 _ _ s branch hlone ih =>
    exact ih h (hform hnode (by rw [hlone]; exact List.mem_singleton.mpr rfl))
  | case7 _ _ s items harray w' target htarget hw ih =>
    cases h
    have hleaf := ih hw (hform hnode (by rw [harray]; exact List.mem_singleton.mpr rfl))
    exact hleaf
  | case8 => cases h
  | case9 => cases h
  | case10 =>
    cases h
    intro s hs
    cases hs
  | case11 _ _ s values hmap w' target htarget hw ih =>
    cases h
    have hleaf := ih hw (hform hnode (by rw [hmap]; exact List.mem_singleton.mpr rfl))
    exact hleaf
  | case12 => cases h
  | case13 => cases h
  | case14 =>
    cases h
    intro s hs
    cases hs
  | case15 =>
    cases h
    rintro s ⟨⟩
    exact hnode

/-! ### The parts of operations -/

theorem parameter_of_get {q : Referable Parameter} {q' : Parameter}
    (hq : ∀ a, q = .inline a → ∀ node ∈ a.nodes, P node) (h : q.get c.parameter = .ok q') :
    ∀ node ∈ q'.nodes, P node := by
  refine Referable.holds_of_get (Q := fun a => ∀ node ∈ a.nodes, P node)
    (fun pointer a ha => ?_) hq h
  obtain ⟨⟨name, entry⟩, hmem, rfl⟩ := exists_mem_of_follow ha
  exact hP.parameter hmem

theorem requestBody_of_get {b : Referable RequestBody} {b' : RequestBody}
    (hb : ∀ a, b = .inline a → ∀ node ∈ a.nodes, P node) (h : b.get c.requestBody = .ok b') :
    ∀ node ∈ b'.nodes, P node := by
  refine Referable.holds_of_get (Q := fun a => ∀ node ∈ a.nodes, P node)
    (fun pointer a ha => ?_) hb h
  obtain ⟨⟨name, entry⟩, hmem, rfl⟩ := exists_mem_of_follow ha
  exact hP.requestBody hmem

theorem response_of_get {response : Referable Response} {response' : Response}
    (hresponse : ∀ a, response = .inline a → ∀ node ∈ a.nodes, P node)
    (h : response.get c.response = .ok response') : ∀ node ∈ response'.nodes, P node := by
  refine Referable.holds_of_get (Q := fun a => ∀ node ∈ a.nodes, P node)
    (fun pointer a ha => ?_) hresponse h
  obtain ⟨⟨name, entry⟩, hmem, rfl⟩ := exists_mem_of_follow ha
  exact hP.response hmem

/-! ### Branches -/

/-- The branches of a union stand in the set. -/
theorem unionBranches (hs : P (.inline s)) : ∀ node ∈ (Resolver.unionBranches s).2, P node := by
  intro node hnode
  rw [Resolver.unionBranches] at hnode
  split at hnode
  · exact hP.branch hs (.inr (.inr hnode))
  · exact hP.branch hs (.inr (.inl hnode))

/-- The schemas that a branch merges stand in the set. -/
theorem flatten (hnode : P node) (hs : s ∈ (c.flatten location chain node).schemas) :
    P (.inline s) := by
  induction chain, node using c.induction with
  | ref chain pointer ih =>
    rw [flatten_ref] at hs
    split at hs
    · cases hs
    next name hname =>
    split at hs
    · cases hs
    next target hfound =>
    split at hs
    · cases hs
    next hfresh =>
      exact ih name target hfound hfresh (hP.named (mem_of_lookup_eq_some hfound)) hs
  | inline chain s' ih =>
    rw [flatten_inline] at hs
    rcases Flattened.mem_schemas_of_append hs with hs | hs
    · obtain ⟨branch, hbranch, hs⟩ := exists_of_mem_flattenAll hs
      have hpart : branch ∈ s'.parts := SchemaBody.mem_parts.mpr (.inr (.inr (.inr (.inl hbranch))))
      exact ih branch hpart (hP.branch hnode (.inl hbranch)) hs
    · obtain rfl := List.mem_singleton.mp hs
      exact hnode

/-- What branches are merged into comes of schemas in the set. -/
theorem merge (hs : P (.inline s)) {merged : Merged} (h : c.merge location s = .ok merged) :
    merged.Within P := by
  obtain ⟨hadd, -⟩ := merge_eq_ok h
  refine Merged.within_nothing.addAll (fun s' hs' => ?_) hadd
  have hin : P (.inline s') := hP.flatten hs hs'
  exact ⟨hin, fun e he => hP.property hin he⟩

/-- The properties that a schema adds to those of its parent stand in the set. -/
theorem inheritedProperties (hs : P (.inline s)) :
    ∀ q ∈ ApiModel.inheritedProperties s, P q.node := by
  have hadd (schemas : List Schema) (hschemas : ∀ s ∈ schemas, P (.inline s))
      (acc : List (String × SchemaNode × Bool)) (hacc : ∀ e ∈ acc, P e.2.1) :
      ∀ e ∈ schemas.foldl addProperties acc, P e.2.1 := by
    induction schemas generalizing acc with
    | nil => exact hacc
    | cons s rest ih =>
      obtain ⟨hs, hrest⟩ := List.forall_mem_cons.mp hschemas
      rw [List.foldl_cons]
      refine ih hrest _ ?_
      exact forall_foldl_setEntry (Q := fun v : SchemaNode × Bool => P v.1)
        (fun _ e he => hP.property hs he) hacc
  intro q hq
  obtain ⟨e, he, rfl⟩ := List.mem_map.mp hq
  refine hadd _ (fun s' hs' => ?_) [] nofun e he
  rcases List.mem_append.mp hs' with hs' | hs'
  · obtain ⟨branch, hbranch, hschema⟩ := List.mem_filterMap.mp hs'
    cases branch with
    | ref pointer => cases hschema
    | inline b =>
      cases hschema
      exact hP.branch hs (.inl hbranch)
  · obtain rfl := List.mem_singleton.mp hs'
    exact hs

/-! ### Forms -/

/-- The parts of the form of a schema stand in the set. -/
theorem modelForm (hs : P (.inline s)) {origin : String} {form : ModelForm}
    (h : c.modelForm origin location s = .ok form) : form.Within P := by
  have hdiscriminator : ∀ d ∈ s.discriminator, d.Within P := fun d hd => ⟨s, hs, hd⟩
  rw [Components.modelForm] at h
  split at h
  · cases h
    trivial
  split at h
  · cases h
    exact hs
  split at h
  · rcases composedForm_cases h with ⟨-, branch, hallOf, rfl⟩ | ⟨-, parent, rfl⟩ |
      ⟨-, merged, hmerge, rfl⟩
    · exact hP.branch hs (.inl (by rw [hallOf]; exact List.mem_singleton.mpr rfl))
    · exact ⟨hP.inheritedProperties hs, hdiscriminator⟩
    · exact (hP.merge hs hmerge).form
  split at h
  · cases h
    refine ⟨fun q hq => ?_, hdiscriminator⟩
    obtain ⟨e, he, rfl⟩ := List.mem_map.mp hq
    exact hP.property hs he
  · cases h
    exact hs

theorem componentForm {name : String} (hnode : P node) {form : ModelForm}
    (h : c.componentForm name node = .ok form) : form.Within P := by
  cases node with
  | ref pointer =>
    cases h
    exact hnode
  | inline s => exact hP.modelForm hnode h

end Components.Closed

end ApiModel
