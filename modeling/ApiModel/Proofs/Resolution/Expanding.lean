import ApiModel.Proofs.Resolution.Steps

/-!
# What is met when branches are expanded

When branches are merged, a pointer is expanded to the schema that it names, and a schema to its
branches. This comes to its end without an error only where nothing that is met on the way is met
again inside what it is expanded to.

## Main definitions

* `Components.Expands`: a named schema is met when a position is expanded.

## Main results

* `Components.Expands.trans`: what is met inside of what is met.
* `Components.expands_of_flatten`: what is met inside a schema that is merged.
* `Components.not_expands_of_flatten`: where expanding comes to its end, nothing that is met is met
  inside of itself.
-/

namespace ApiModel

namespace Flattened

variable {a b : Flattened} {s : Schema}

theorem mem_schemas_of_append (h : s ∈ (a.append b).schemas) : s ∈ a.schemas ∨ s ∈ b.schemas := by
  rw [append] at h
  split at h
  · exact .inl h
  · exact List.mem_append.mp h

theorem stop_of_append (h : (a.append b).stop = none) : a.stop = none ∧ b.stop = none := by
  rw [append] at h
  split at h
  next hstop =>
    rw [h] at hstop
    cases hstop
  next hstop => exact ⟨by simpa using hstop, h⟩

end Flattened

namespace Components

variable {c : Components} {location met name : String} {chain : Chain} {node target : SchemaNode}
  {s : Schema}

/-- A named schema is met when a position is expanded. -/
inductive Expands (c : Components) : SchemaNode → String → Prop
  | here {pointer name : String} {target : SchemaNode}
      (hname : componentName "schemas" pointer = .ok name)
      (hfound : c.schemas.lookup name = some target) : Expands c (.ref pointer) name
  | through {pointer name met : String} {target : SchemaNode}
      (hname : componentName "schemas" pointer = .ok name)
      (hfound : c.schemas.lookup name = some target) (h : Expands c target met) :
      Expands c (.ref pointer) met
  | branch {s : Schema} {branch : SchemaNode} {met : String} (hbranch : branch ∈ s.allOf)
      (h : Expands c branch met) : Expands c (.inline s) met

/-- What is met inside of what is met is met. -/
theorem Expands.trans (h : c.Expands node name) (hfound : c.schemas.lookup name = some target)
    (hinside : c.Expands target met) : c.Expands node met := by
  induction h with
  | here hname => exact .through hname hfound hinside
  | through hname hnext _ ih => exact .through hname hnext (ih hfound)
  | branch hbranch _ ih => exact .branch hbranch (ih hfound)

/-! ### Merging -/

theorem exists_of_mem_flattenAll {branches : List SchemaNode}
    (h : s ∈ (c.flattenAll location chain branches).schemas) :
    ∃ branch ∈ branches, s ∈ (c.flatten location chain branch).schemas := by
  induction branches with
  | nil =>
    rw [flattenAll] at h
    cases h
  | cons branch rest ih =>
    rw [flattenAll] at h
    rcases Flattened.mem_schemas_of_append h with h | h
    · exact ⟨branch, List.mem_cons_self, h⟩
    · obtain ⟨branch', hbranch', h⟩ := ih h
      exact ⟨branch', List.mem_cons_of_mem _ hbranch', h⟩

theorem stop_flatten_of_flattenAll {branches : List SchemaNode}
    (h : (c.flattenAll location chain branches).stop = none) {branch : SchemaNode}
    (hbranch : branch ∈ branches) : (c.flatten location chain branch).stop = none := by
  induction branches with
  | nil => cases hbranch
  | cons branch rest ih =>
    rw [flattenAll] at h
    obtain ⟨hfirst, hrest⟩ := Flattened.stop_of_append h
    rcases List.mem_cons.mp hbranch with rfl | hbranch
    · exact hfirst
    · exact ih hrest hbranch

/-- What is met inside a schema that is merged is met when the position is expanded. -/
theorem expands_of_flatten (hs : s ∈ (c.flatten location chain node).schemas)
    (h : c.Expands (.inline s) met) : c.Expands node met := by
  induction chain, node using c.induction with
  | ref chain pointer ih =>
    rw [flatten_ref] at hs
    split at hs
    · cases hs
    next name hname =>
    split at hs
    · cases hs
    next target hfound =>
    split at hs
    · cases hs
    next hfresh => exact .through hname hfound (ih name target hfound hfresh hs)
  | inline chain s' ih =>
    rw [flatten_inline] at hs
    rcases Flattened.mem_schemas_of_append hs with hs | hs
    · obtain ⟨branch, hbranch, hs⟩ := exists_of_mem_flattenAll hs
      have hpart : branch ∈ s'.parts := SchemaBody.mem_parts.mpr (.inr (.inr (.inr (.inl hbranch))))
      exact .branch hbranch (ih branch hpart hs)
    · obtain rfl := List.mem_singleton.mp hs
      exact h

/-- Where expanding comes to its end, what is met is not on the chain, and is expanded in turn with
its name on the chain. -/
theorem Expands.exists_flatten (h : c.Expands node met)
    (hstop : (c.flatten location chain node).stop = none) :
    met ∉ chain.names ∧ ∃ target, c.schemas.lookup met = some target ∧
      ∃ chain' : Chain, met ∈ chain'.names ∧ (c.flatten location chain' target).stop = none := by
  induction h generalizing chain with
  | @here pointer name target hname hfound =>
    rw [flatten_ref, hname] at hstop
    simp only [hfound] at hstop
    split at hstop
    · cases hstop
    next hfresh =>
      exact ⟨hfresh, target, hfound, ⟨chain.closedBy name⟩, by simp [Chain.closedBy], hstop⟩
  | through hname hfound _ ih =>
    rw [flatten_ref, hname] at hstop
    simp only [hfound] at hstop
    split at hstop
    · cases hstop
    · obtain ⟨hfresh, hexpanded⟩ := ih hstop
      exact ⟨fun hmem => hfresh (List.mem_append_left _ hmem), hexpanded⟩
  | branch hbranch _ ih =>
    rw [flatten_inline] at hstop
    exact ih (stop_flatten_of_flattenAll (Flattened.stop_of_append hstop).1 hbranch)

/-- Where expanding comes to its end, nothing that is met is met inside of itself. -/
theorem not_expands_of_flatten (hstop : (c.flatten location chain node).stop = none)
    (h : c.Expands node met) (hfound : c.schemas.lookup met = some target) :
    ¬c.Expands target met := by
  intro hinside
  obtain ⟨-, target', hfound', chain', hmem, hstop'⟩ := h.exists_flatten hstop
  rw [hfound] at hfound'
  obtain rfl := Option.some.inj hfound'
  exact (hinside.exists_flatten hstop').1 hmem

/-- What is merged comes from expanding to the end. -/
theorem merge_eq_ok {merged : Merged} (h : c.merge location s = .ok merged) :
    ({} : Merged).addAll location (c.flatten location .empty (.inline s)).schemas = .ok merged ∧
      (c.flatten location .empty (.inline s)).stop = none := by
  rw [merge] at h
  rcases hadd : ({} : Merged).addAll location
    (c.flatten location .empty (.inline s)).schemas with e | merged' <;> rw [hadd] at h
  · cases h
  rcases hstop : (c.flatten location .empty (.inline s)).stop with _ | e <;>
    simp only [bind, Except.bind, hstop] at h <;> cases h
  exact ⟨rfl, rfl⟩

end Components

/-- The value for which merged schemas stand is one of them. -/
theorem Merged.mem_of_addAll {location : String} {m m' : Merged} {schemas : List Schema}
    (h : m.addAll location schemas = .ok m') {value : Schema} (hvalue : m'.value = some value) :
    m.value = some value ∨ value ∈ schemas := by
  induction schemas generalizing m with
  | nil =>
    cases h
    exact .inl hvalue
  | cons s rest ih =>
    rw [addAll] at h
    split at h
    · cases h
    rcases ih h with hadd | hmem
    · rw [add] at hadd
      rcases Option.or_eq_some_iff.mp hadd with hfirst | ⟨-, hs⟩
      · exact .inl hfirst
      · split at hs <;> cases hs
        exact .inr List.mem_cons_self
    · exact .inr (List.mem_cons_of_mem _ hmem)

end ApiModel
