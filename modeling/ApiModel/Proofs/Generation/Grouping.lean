import ApiModel.Generation.Grouping
import ApiModel.Proofs.Lists

/-!
# Groups are a stable partition

Operations are put into groups one after the other. What comes of it is a partition that keeps the
order: the groups come in the order in which their names appear first, and each of them has the
operations of its name, in the order in which they were put in.

## Main definitions

* `groupNames`, `inGroup`: the names of the groups of operations, and the operations of a group.
* `IsPartition`: groups that hold operations in order.

## Main results

* `groupOperations_eq`: the groups of operations.
* `perm_groupOperations`: no operation is lost and none comes twice.
* `isPartition_of_groupOperations`: groups hold the operations in order.
-/

namespace ApiModel

/-- The names of the groups of operations, in order of first appearance. -/
def groupNames (operations : List ApiOperation) : List String :=
  (operations.map ApiOperation.group).eraseDups

/-- The operations of a group, in order. -/
def inGroup (name : String) (operations : List ApiOperation) : List ApiOperation :=
  operations.filter fun op => op.group = name

/-- Groups that hold operations in order. -/
structure IsPartition (groups : List ApiGroup) (operations : List ApiOperation) : Prop where
  /-- No operation is lost, and none comes twice. -/
  perm : (groups.flatMap ApiGroup.operations).Perm operations
  /-- The groups come in the order of their first operations. -/
  names : groups.map ApiGroup.name = groupNames operations
  nodup : (groups.map ApiGroup.name).Nodup
  ne_nil : ∀ g ∈ groups, g.operations ≠ []
  /-- A group has the operations of its name, in order. -/
  operations : ∀ g ∈ groups, g.operations = inGroup g.name operations

/-! ### Names and members -/

section Names

variable (op : ApiOperation) (operations : List ApiOperation)

theorem mem_groupNames {name : String} :
    name ∈ groupNames operations ↔ ∃ op ∈ operations, op.group = name := by
  simp [groupNames]

theorem nodup_groupNames : (groupNames operations).Nodup := nodup_eraseDups _

theorem groupNames_append_singleton : groupNames (operations ++ [op]) =
    if op.group ∈ groupNames operations then groupNames operations
    else groupNames operations ++ [op.group] := by
  simp only [groupNames, List.map_append, List.map_singleton, eraseDups_append_singleton,
    List.mem_eraseDups]

/-- Further operations open their groups behind those that are there. -/
theorem groupNames_prefix (more : List ApiOperation) :
    groupNames operations <+: groupNames (operations ++ more) := by
  rw [groupNames, groupNames, List.map_append, List.eraseDups_append]
  exact List.prefix_append _ _

/-- Further operations come last in their groups. -/
theorem inGroup_append (name : String) (more : List ApiOperation) :
    inGroup name (operations ++ more) = inGroup name operations ++ inGroup name more :=
  List.filter_append _ _

theorem inGroup_append_singleton (name : String) : inGroup name (operations ++ [op]) =
    if op.group = name then inGroup name operations ++ [op] else inGroup name operations := by
  rw [inGroup_append]
  split
  next h => simp [inGroup, h]
  next h => simp [inGroup, h]

theorem inGroup_ne_nil {operations : List ApiOperation} {name : String}
    (h : name ∈ groupNames operations) : inGroup name operations ≠ [] := by
  obtain ⟨op, hop, hname⟩ := (mem_groupNames operations).mp h
  exact List.ne_nil_of_mem (List.mem_filter.mpr ⟨hop, decide_eq_true hname⟩)

theorem inGroup_eq_nil {operations : List ApiOperation} {name : String}
    (h : name ∉ groupNames operations) : inGroup name operations = [] :=
  List.filter_eq_nil_iff.mpr fun op hop hname =>
    h ((mem_groupNames operations).mpr ⟨op, hop, of_decide_eq_true hname⟩)

end Names

/-! ### Adding one operation -/

section Add

variable {op : ApiOperation} {names : List String} {members : String → List ApiOperation}

/-- An operation comes last in the group of its name. -/
theorem addToGroup_of_mem (hnodup : names.Nodup) (h : op.group ∈ names) :
    addToGroup op (names.map fun name => (name, members name)) =
      names.map fun name =>
        (name, if op.group = name then members name ++ [op] else members name) := by
  induction names with
  | nil => cases h
  | cons name rest ih =>
    obtain ⟨hname, hrest⟩ := List.nodup_cons.mp hnodup
    rw [List.map_cons, List.map_cons, addToGroup]
    split
    next heq =>
      refine congrArg₂ List.cons (by rw [if_pos heq.symm]) (List.map_congr_left fun n hn => ?_)
      rw [if_neg fun hgroup => hname (heq.trans hgroup ▸ hn)]
    next hne =>
      have hmem : op.group ∈ rest := (List.mem_cons.mp h).resolve_left fun heq => hne heq.symm
      rw [if_neg fun heq => hne heq.symm, ih hrest hmem]

/-- An operation of a new group opens it. -/
theorem addToGroup_of_notMem (h : op.group ∉ names) :
    addToGroup op (names.map fun name => (name, members name)) =
      (names.map fun name => (name, members name)) ++ [(op.group, [op])] := by
  induction names with
  | nil => rfl
  | cons name rest ih =>
    rw [List.mem_cons, not_or] at h
    rw [List.map_cons, addToGroup, if_neg fun heq => h.1 heq.symm, ih h.2, List.cons_append]

end Add

/-! ### All operations -/

/-- The groups that are open after some operations. -/
theorem foldl_addToGroup (operations : List ApiOperation) :
    operations.foldl (fun groups op => addToGroup op groups) [] =
      (groupNames operations).map fun name => (name, inGroup name operations) := by
  induction operations using List.reverseRecOn with
  | nil => rfl
  | append_singleton operations op ih =>
    rw [List.foldl_append, List.foldl_cons, List.foldl_nil, ih, groupNames_append_singleton]
    simp only [inGroup_append_singleton]
    by_cases h : op.group ∈ groupNames operations
    · rw [addToGroup_of_mem (nodup_groupNames operations) h, if_pos h]
    · rw [addToGroup_of_notMem h, if_neg h, List.map_append, List.map_singleton, if_pos rfl,
        inGroup_eq_nil h, List.nil_append]
      refine congrArg (· ++ _) (List.map_congr_left fun name hname => ?_)
      have hne : op.group ≠ name := fun heq => h (heq ▸ hname)
      rw [if_neg hne]

/-- Each group has the operations of its name, in order; the groups come in order of first
appearance. -/
theorem groupOperations_eq (p : Profile) (operations : List ApiOperation) :
    groupOperations p operations = (groupNames operations).map fun name =>
      { name, apiName := p.apiName (Name.ofText name), operations := inGroup name operations } := by
  rw [groupOperations, foldl_addToGroup, List.map_map]
  rfl

/-- Adding an operation to its group adds it once. -/
theorem perm_addToGroup (op : ApiOperation) (groups : List (String × List ApiOperation)) :
    ((addToGroup op groups).flatMap Prod.snd).Perm (groups.flatMap Prod.snd ++ [op]) := by
  induction groups with
  | nil => exact .refl _
  | cons g rest ih =>
    obtain ⟨name, ops⟩ := g
    rw [addToGroup]
    split
    · simp only [List.flatMap_cons, List.append_assoc]
      exact .append_left ops List.perm_append_comm
    · simp only [List.flatMap_cons, List.append_assoc]
      exact ih.append_left ops

/-- No operation is lost, and none comes twice. -/
theorem perm_groupOperations (p : Profile) (operations : List ApiOperation) :
    ((groupOperations p operations).flatMap ApiGroup.operations).Perm operations := by
  rw [groupOperations, List.flatMap_map]
  induction operations using List.reverseRecOn with
  | nil => exact .refl _
  | append_singleton operations op ih =>
    rw [List.foldl_append, List.foldl_cons, List.foldl_nil]
    exact (perm_addToGroup op _).trans (ih.append_right [op])

/-- The groups of operations hold them in order, whatever the groups import. -/
theorem isPartition_of_groupOperations (p : Profile) (operations : List ApiOperation)
    (imports : ApiGroup → List String) :
    IsPartition ((groupOperations p operations).map fun g => { g with imports := imports g })
      operations where
  perm := by
    rw [List.flatMap_map]
    exact perm_groupOperations p operations
  names := by simp [groupOperations_eq, Function.comp_def]
  nodup := by simpa [groupOperations_eq, Function.comp_def] using nodup_groupNames operations
  ne_nil g hg := by
    rw [groupOperations_eq, List.map_map] at hg
    obtain ⟨name, hname, rfl⟩ := List.mem_map.mp hg
    exact inGroup_ne_nil hname
  operations g hg := by
    rw [groupOperations_eq, List.map_map] at hg
    obtain ⟨name, -, rfl⟩ := List.mem_map.mp hg
    rfl

end ApiModel
