import ApiModel.Contract.Decode
import ApiModel.Proofs.Document.Finite

/-!
# Positions however deep they are nested

A position is read with a bound on how deep others may be nested in it. The bound does not matter as
long as it is not reached, so a position is read like those that are nested in it.

## Main results

* `Decode.schemaNodeWithin_congr`: the bound does not matter.
* `Decode.schemaNode_eq`: what a position holds.
-/

namespace ApiModel.Decode

theorem mapM_congr {α β : Type} {f g : α → Option β} {l : List α} (h : ∀ a ∈ l, f a = g a) :
    l.mapM f = l.mapM g := by
  induction l with
  | nil => rfl
  | cons a l ih =>
    obtain ⟨hfirst, hrest⟩ := List.forall_mem_cons.mp h
    rw [List.mapM_cons, List.mapM_cons, hfirst, ih hrest]

section Congruence

variable {α : Type} {f g : Datum → Option α} {d : Datum}

theorem depth_lt_of_mem_items {items : List Datum} (h : d ∈ items) :
    d.depth < (Datum.list items).depth := by
  rw [Datum.depth, Nat.lt_succ_iff]
  induction items with
  | nil => cases h
  | cons d' rest ih =>
    rw [Datum.depthOfItems]
    rcases List.mem_cons.mp h with rfl | h
    · exact Nat.le_max_left _ _
    · exact Nat.le_trans (ih h) (Nat.le_max_right _ _)

theorem depth_lt_of_mem_entries {entries : List (Datum × Datum)} {e : Datum × Datum}
    (h : e ∈ entries) : e.2.depth < (Datum.map entries).depth := by
  rw [Datum.depth, Nat.lt_succ_iff]
  induction entries with
  | nil => cases h
  | cons e' rest ih =>
    rw [Datum.depthOfEntries]
    rcases List.mem_cons.mp h with rfl | h
    · exact Nat.le_trans (Nat.le_max_right _ _) (Nat.le_max_left _ _)
    · exact Nat.le_trans (ih h) (Nat.le_max_right _ _)

theorem asList_congr (h : ∀ d', d'.depth < d.depth → f d' = g d') :
    Datum.asList f d = Datum.asList g d := by
  cases d with
  | list items => exact mapM_congr fun d' hd' => h d' (depth_lt_of_mem_items hd')
  | _ => rfl

theorem asMap_congr (h : ∀ d', d'.depth < d.depth → f d' = g d') :
    Datum.asMap f d = Datum.asMap g d := by
  cases d with
  | map entries =>
    have hpairs : entries.mapM (fun e => do return (← e.1.asText, ← f e.2)) =
        entries.mapM fun e => do return (← e.1.asText, ← g e.2) :=
      mapM_congr fun e he => by rw [h e.2 (depth_lt_of_mem_entries he)]
    exact congrArg (· >>= fun pairs => some (ofEntries pairs)) hpairs
  | _ => rfl

theorem asOptional_congr (h : f d = g d) : Datum.asOptional f d = Datum.asOptional g d := by
  cases d <;> simp only [Datum.asOptional, h]

end Congruence

theorem additional_congr {f g : Datum → Option SchemaNode} {d : Datum} (h : f d = g d) :
    additional f d = additional g d := by
  rw [additional, additional, h]

/-- Where nested positions are read alike, so is a schema. -/
theorem schemaOfSlots_congr {f g : Datum → Option SchemaNode} {slots : Slots Datum}
    (h : ∀ e ∈ slots.given, ∀ d, d.depth ≤ e.2.depth → f d = g d) :
    schemaOfSlots f slots = schemaOfSlots g slots := by
  have hoptional {α : Type} (field : String) {r r' : Datum → Option α}
      (hr : ∀ e ∈ slots.given, r e.2 = r' e.2) :
      slots.optional field (Datum.asOptional r) = slots.optional field (Datum.asOptional r') := by
    rw [Slots.optional, Slots.optional]
    split
    next d hd => exact asOptional_congr (hr _ (mem_of_lookup_eq_some hd))
    next => rfl
  have hdefaulted {α : Type} (field : String) (value : α) {r r' : Datum → Option α}
      (hr : ∀ e ∈ slots.given, r e.2 = r' e.2) :
      slots.defaulted field value r = slots.defaulted field value r' := by
    rw [Slots.defaulted, Slots.defaulted]
    split
    next d hd => exact hr _ (mem_of_lookup_eq_some hd)
    next => rfl
  have hnode (e) (he : e ∈ slots.given) : f e.2 = g e.2 := h e he e.2 (Nat.le_refl _)
  have hlist (e) (he : e ∈ slots.given) : Datum.asList f e.2 = Datum.asList g e.2 :=
    asList_congr fun d hd => h e he d (Nat.le_of_lt hd)
  have hmap (e) (he : e ∈ slots.given) : Datum.asMap f e.2 = Datum.asMap g e.2 :=
    asMap_congr fun d hd => h e he d (Nat.le_of_lt hd)
  simp only [schemaOfSlots, hdefaulted "properties" [] hmap, hoptional "items" hnode,
    hoptional "additionalProperties" fun e he => additional_congr (hnode e he),
    hdefaulted "allOf" [] hlist, hdefaulted "oneOf" [] hlist, hdefaulted "anyOf" [] hlist]

/-- What is given in a record is less deep than the record. -/
theorem depth_lt_of_record {d : Datum} {fields : List String} {slots : Slots Datum}
    (h : d.record fields = some slots) : slots.Each fun inner => inner.depth < d.depth := by
  cases d with
  | list items => exact .positional (fun _ hmem => depth_lt_of_mem_items hmem) h
  | map entries =>
    obtain ⟨pairs, hpairs, hnamed⟩ := Option.bind_eq_some_iff.mp h
    refine .named (fun e he => ?_) hnamed
    obtain ⟨entry, hentry, hread⟩ := exists_of_forall₂ (forall₂_of_mapM_some hpairs) he
    obtain ⟨key, -, hread⟩ := Option.bind_eq_some_iff.mp hread
    cases hread
    exact depth_lt_of_mem_entries hentry
  | _ => cases h

/-- How often positions may be nested does not matter, if it is often enough. -/
theorem schemaNodeWithin_congr {n m : Nat} {d : Datum} (hn : d.depth < n) (hm : d.depth < m) :
    schemaNodeWithin n d = schemaNodeWithin m d := by
  induction n generalizing m d with
  | zero => exact absurd hn (Nat.not_lt_zero _)
  | succ n ih =>
    cases m with
    | zero => exact absurd hm (Nat.not_lt_zero _)
    | succ m =>
      rw [schemaNodeWithin, schemaNodeWithin]
      congr 1
      refine Option.bind_congr fun slots hslots => ?_
      have hnested : schemaOfSlots (schemaNodeWithin n) slots =
          schemaOfSlots (schemaNodeWithin m) slots := by
        refine schemaOfSlots_congr fun e he d' hd' => ?_
        have := depth_lt_of_record hslots e he
        exact ih (by omega) (by omega)
      rw [hnested]

/-- What a position holds, whatever its depth. -/
theorem schemaNode_eq (d : Datum) : schemaNode d = ((pointer d).map .ref).or (do
    let slots ← d.record schemaFields
    return .inline (← schemaOfSlots schemaNode slots)) := by
  rw [schemaNode, schemaNodeWithin]
  congr 1
  refine Option.bind_congr fun slots hslots => ?_
  have hnested : schemaOfSlots (schemaNodeWithin d.depth) slots =
      schemaOfSlots schemaNode slots := by
    refine schemaOfSlots_congr fun e he d' hd' => ?_
    have := depth_lt_of_record hslots e he
    exact schemaNodeWithin_congr (by omega) (by omega)
  rw [hnested]

end ApiModel.Decode
