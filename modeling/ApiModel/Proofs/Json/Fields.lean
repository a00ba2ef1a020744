import ApiModel.Json.Value
import ApiModel.Proofs.Lists
import Mathlib.Data.String.Basic

/-!
# Fields in the order of their keys

## Main definitions

* `InOrder`: fields whose keys ascend.

## Main results

* `inOrder_sortFields`, `sortFields_of_inOrder`: sorting puts fields in order, and leaves fields as
  they are that are in order.
* `perm_sortFields`: where no key comes twice, sorting only moves fields.
* `sortFields_map`: it does not matter whether the values are changed before or after.
-/

namespace ApiModel.Json

variable {α β : Type} {l : List (String × α)}

/-- The keys of the fields ascend. -/
abbrev InOrder (l : List (String × α)) : Prop := l.Pairwise fun a b => a.1 < b.1

theorem InOrder.nodup (h : InOrder l) : (l.map Prod.fst).Nodup :=
  List.pairwise_map.mpr (h.imp ne_of_lt)

/-! ### One field -/

theorem mem_of_mem_insertField {key : String} {value : α} {e : String × α}
    (h : e ∈ insertField key value l) : e = (key, value) ∨ e ∈ l := by
  induction l with
  | nil => exact .inl (List.mem_singleton.mp h)
  | cons f rest ih =>
    obtain ⟨k, v⟩ := f
    rw [insertField] at h
    split at h
    · exact List.mem_cons.mp h
    split at h
    · exact (List.mem_cons.mp h).imp_right (List.mem_cons_of_mem _)
    · rcases List.mem_cons.mp h with rfl | h
      · exact .inr List.mem_cons_self
      · exact (ih h).imp_right (List.mem_cons_of_mem _)

theorem inOrder_insertField (key : String) (value : α) (h : InOrder l) :
    InOrder (insertField key value l) := by
  induction l with
  | nil => exact List.pairwise_singleton _ _
  | cons f rest ih =>
    obtain ⟨k, v⟩ := f
    obtain ⟨hfirst, hrest⟩ := List.pairwise_cons.mp h
    rw [insertField]
    split
    next hlt =>
      refine List.pairwise_cons.mpr ⟨fun e he => ?_, h⟩
      rcases List.mem_cons.mp he with rfl | he
      · exact hlt
      · exact lt_trans hlt (hfirst e he)
    next hge =>
    split
    next heq => exact List.pairwise_cons.mpr ⟨fun e he => heq ▸ hfirst e he, hrest⟩
    next hne =>
      refine List.pairwise_cons.mpr ⟨fun e he => ?_, ih hrest⟩
      rcases mem_of_mem_insertField he with rfl | he
      · exact lt_of_le_of_ne (not_lt.mp hge) (Ne.symm hne)
      · exact hfirst e he

theorem perm_insertField {key : String} (value : α) (h : key ∉ l.map Prod.fst) :
    (insertField key value l).Perm ((key, value) :: l) := by
  induction l with
  | nil => exact .refl _
  | cons f rest ih =>
    obtain ⟨k, v⟩ := f
    rw [List.map_cons, List.mem_cons, not_or] at h
    rw [insertField]
    split
    · exact .refl _
    · rw [if_neg h.1]
      exact ((ih h.2).cons _).trans (.swap _ _ _)

/-- A field with the largest key comes last. -/
theorem insertField_of_forall_lt {key : String} (value : α) (h : ∀ e ∈ l, e.1 < key) :
    insertField key value l = l ++ [(key, value)] := by
  induction l with
  | nil => rfl
  | cons f rest ih =>
    obtain ⟨k, v⟩ := f
    obtain ⟨hfirst, hrest⟩ := List.forall_mem_cons.mp h
    rw [insertField, if_neg (not_lt.mpr hfirst.le), if_neg hfirst.ne', ih hrest, List.cons_append]

theorem insertField_map (f : α → β) (key : String) (value : α) (l : List (String × α)) :
    insertField key (f value) (l.map (Prod.map id f)) =
      (insertField key value l).map (Prod.map id f) := by
  induction l with
  | nil => rfl
  | cons e rest ih =>
    rw [List.map_cons, Prod.map, id, insertField, insertField, ih]
    split
    · rfl
    · split <;> rfl

/-! ### All fields -/

theorem sortFields_append_singleton (l : List (String × α)) (e : String × α) :
    sortFields (l ++ [e]) = insertField e.1 e.2 (sortFields l) := by
  rw [sortFields, List.foldl_append]
  rfl

theorem mem_of_mem_sortFields {e : String × α} (h : e ∈ sortFields l) : e ∈ l := by
  induction l using List.reverseRecOn with
  | nil => exact h
  | append_singleton l f ih =>
    rw [sortFields_append_singleton] at h
    rcases mem_of_mem_insertField h with rfl | h
    · exact List.mem_append_right _ (List.mem_singleton.mpr rfl)
    · exact List.mem_append_left _ (ih h)

theorem inOrder_sortFields (l : List (String × α)) : InOrder (sortFields l) := by
  induction l using List.reverseRecOn with
  | nil => exact .nil
  | append_singleton l e ih =>
    rw [sortFields_append_singleton]
    exact inOrder_insertField _ _ ih

theorem sortFields_of_inOrder (h : InOrder l) : sortFields l = l := by
  induction l using List.reverseRecOn with
  | nil => rfl
  | append_singleton l e ih =>
    obtain ⟨hl, -, hlast⟩ := List.pairwise_append.mp h
    rw [sortFields_append_singleton, ih hl,
      insertField_of_forall_lt _ fun f hf => hlast f hf e (List.mem_singleton.mpr rfl)]

/-- Where no key comes twice, sorting only moves fields. -/
theorem perm_sortFields (h : (l.map Prod.fst).Nodup) : (sortFields l).Perm l := by
  induction l using List.reverseRecOn with
  | nil => exact .refl _
  | append_singleton l e ih =>
    rw [List.map_append, List.nodup_append] at h
    have hnew : e.1 ∉ (sortFields l).map Prod.fst := by
      intro hmem
      obtain ⟨f, hf, hkey⟩ := List.mem_map.mp hmem
      exact h.2.2 f.1 (List.mem_map_of_mem (mem_of_mem_sortFields hf)) e.1 (by simp) hkey
    rw [sortFields_append_singleton]
    exact ((perm_insertField e.2 hnew).trans ((ih h.1).cons _)).trans
      (List.perm_append_singleton _ _).symm

theorem sortFields_map (f : α → β) (l : List (String × α)) :
    sortFields (l.map (Prod.map id f)) = (sortFields l).map (Prod.map id f) := by
  induction l using List.reverseRecOn with
  | nil => rfl
  | append_singleton l e ih =>
    rw [List.map_append, List.map_singleton, sortFields_append_singleton,
      sortFields_append_singleton, ih, ← insertField_map]
    rfl

/-- Sorting does not change what is found under a key. -/
theorem lookup_sortFields (h : (l.map Prod.fst).Nodup) (key : String) :
    (sortFields l).lookup key = l.lookup key :=
  lookup_eq_of_perm (perm_sortFields h).symm h key

end ApiModel.Json
