import ApiModel.Proofs.Resolution.Collecting
import ApiModel.Proofs.Resolution.Expanding
import ApiModel.Proofs.Resolution.Soundness

/-!
# What another name stands for

A schema position is another name for a named schema when the way from it passes through nothing but
pointers to schemas that are no models and lone branches, and ends at this named schema. Only then
does it resolve to the model of a named schema: a container is a type of its own, and an object
without a name gets a model under a name that is still free.

## Main definitions

* `Components.Means`: a schema position is another name for a named schema.

## Main results

* `Components.Means.walk_eq`, `Components.exists_means_of_walk`: the way from such a position.
* `Resolver.kind_of_means`, `Resolver.means_of_resolve`: what such a position resolves to.
-/

namespace ApiModel

namespace Components

/-- A schema position is another name for a named schema to which references stay references. -/
inductive Means (c : Components) : SchemaNode → String → Prop
  | model {pointer name : String} {target : SchemaNode}
      (hname : componentName "schemas" pointer = .ok name)
      (hfound : c.schemas.lookup name = some target) (hmodel : target.isModel = true) :
      Means c (.ref pointer) name
  | through {pointer name meant : String} {target : SchemaNode}
      (hname : componentName "schemas" pointer = .ok name)
      (hfound : c.schemas.lookup name = some target) (hother : target.isModel = false)
      (h : Means c target meant) : Means c (.ref pointer) meant
  | lone {s : Schema} {branch : SchemaNode} {meant : String} (hform : s.form = .lone branch)
      (h : Means c branch meant) : Means c (.inline s) meant

variable {c : Components} {chain : Chain} {location meant : String} {node : SchemaNode} {w : Walk}

/-- What is meant is a named schema to which references stay references. -/
theorem Means.exists_target (h : c.Means node meant) :
    ∃ target, c.schemas.lookup meant = some target ∧ target.isModel = true := by
  induction h with
  | model _ hfound hmodel => exact ⟨_, hfound, hmodel⟩
  | through _ _ _ _ ih | lone _ _ ih => exact ih

/-- What is meant is met when the position is expanded. -/
theorem Means.expands (h : c.Means node meant) : c.Expands node meant := by
  induction h with
  | model hname hfound => exact .here hname hfound
  | through hname hfound _ _ ih => exact .through hname hfound ih
  | @lone s branch _ hform _ ih =>
    have hbranch : branch ∈ s.allOf := by simp [s.allOf_of_form_lone hform]
    exact .branch hbranch ih

/-- The way from a position that is another name leads to the model of the schema that is meant. -/
theorem Means.walk_eq (h : c.Means node meant) (hw : c.walk chain location node = .ok w) :
    w.layers = [] ∧ w.leaf = .model (Name.ofText meant).pascalCase := by
  induction h generalizing chain location with
  | model hname hfound hmodel =>
    rw [walk_ref, hname] at hw
    simp only [hfound, if_pos hmodel] at hw
    cases hw
    exact ⟨rfl, rfl⟩
  | through hname hfound hother _ ih =>
    rw [walk_ref, hname] at hw
    simp only [hfound, hother, Bool.false_eq_true, if_false] at hw
    split at hw
    · cases hw
    · exact ih hw
  | lone hform _ ih =>
    rw [walk_inline, hform] at hw
    exact ih hw

/-- A way that ends at a model without any container comes from a position that is another name. -/
theorem exists_means_of_walk (hw : c.walk chain location node = .ok w) (hlayers : w.layers = [])
    {name : String} (hleaf : w.leaf = .model name) :
    ∃ meant, c.Means node meant ∧ name = (Name.ofText meant).pascalCase := by
  fun_induction c.walk chain location node generalizing w with
  | case3 chain location pointer name' hname target hfound hmodel =>
    cases hw
    cases hleaf
    exact ⟨name', .model hname hfound hmodel, rfl⟩
  | case5 chain location pointer name' hname target hfound hother _ ih =>
    obtain ⟨meant, hmeans, heq⟩ := ih hw hlayers hleaf
    exact ⟨meant, .through hname hfound (by simpa using hother) hmeans, heq⟩
  | case6 chain location s branch hform ih =>
    obtain ⟨meant, hmeans, heq⟩ := ih hw hlayers hleaf
    exact ⟨meant, .lone hform hmeans, heq⟩
  | case15 =>
    cases hw
    cases hleaf
  | case7 | case10 | case11 | case14 =>
    cases hw
    cases hlayers
  | case1 | case2 | case4 | case8 | case9 | case12 | case13 => cases hw

end Components

namespace Resolver

variable {r : Resolver} {usage : Usage} {node : SchemaNode} {st st' : Promotions}
  {t : ResolvedType}

/-- A promoted model is given a name that was free. -/
theorem notMem_of_promote {shape : Shape} {s : Schema} {name : String}
    (h : (r.promote shape usage s).outcome st = (.ok name, st')) : name ∉ st.names.taken := by
  rw [promote] at h
  obtain ⟨granted, st₁, hclaim, h⟩ := Resolving.exists_of_outcome_bind h
  cases hclaim
  obtain ⟨m, st₂, -, h⟩ := Resolving.exists_of_outcome_bind h
  obtain ⟨_, st₃, -, h⟩ := Resolving.exists_of_outcome_bind h
  cases h
  exact st.names.grant_notMem usage.inlineName

/-- A leaf whose type is a model is that model, or is promoted under a name that was free. -/
theorem leaf_of_leafType {shape : Shape} {leaf : Leaf} {n : String}
    (h : (r.leafType shape usage leaf).outcome st = (.ok t, st')) (ht : t.kind = .model n) :
    leaf = .model n ∨ n ∉ st.names.taken := by
  cases leaf with
  | model name =>
    cases h
    cases ht
    exact .inl rfl
  | any =>
    cases h
    cases ht
  | schema s =>
    refine .inr ?_
    unfold leafType at h
    dsimp only at h
    split at h
    case h_1 | h_5 => -- an enum, and alternatives
      obtain ⟨_, -, h⟩ := Resolving.exists_of_outcome_lift_bind h
      cases h
      cases ht
    case h_2 => -- a union
      obtain ⟨u, st₁, -, h⟩ := Resolving.exists_of_outcome_bind h
      cases h
      cases ht
    case h_3 | h_4 => -- what is promoted
      obtain ⟨name, st₁, hname, h⟩ := Resolving.exists_of_outcome_bind h
      cases h
      cases ht
      exact notMem_of_promote hname
    case h_6 => -- a primitive
      rw [Profile.primitive] at h
      split at h <;> cases h
      cases ht
    case h_7 => -- any value
      cases h
      cases ht

/-- What is resolved has the kind of the type of its leaf inside the containers on its way. -/
theorem exists_walk_of_resolve (h : (r.resolve usage node).outcome st = (.ok t, st')) :
    ∃ w inner usage' type, r.components.walk .empty usage.location node = .ok w ∧
      (r.leafType inner usage' w.leaf).outcome st = (.ok type, st') ∧
      t.kind = (w.wrap r.profile type).kind := by
  rw [resolve, resolveWith] at h
  obtain ⟨type, st₁, hshape, h⟩ := Resolving.exists_of_outcome_bind h
  obtain ⟨target, -, h⟩ := Resolving.exists_of_outcome_lift_bind h
  cases h
  rw [shape, shapeByWalk] at hshape
  obtain ⟨w, hw, hshape⟩ := Resolving.exists_of_outcome_lift_bind hshape
  obtain ⟨leaf, st₂, hleaf, hshape⟩ := Resolving.exists_of_outcome_bind hshape
  cases hshape
  exact ⟨w, _, _, leaf, hw, hleaf, r.kind_finish usage target _⟩

/-- A position that is another name resolves to the model of the schema that is meant, and promotes
nothing. -/
theorem kind_of_means {meant : String} (hmeans : r.components.Means node meant)
    (h : (r.resolve usage node).outcome st = (.ok t, st')) :
    t.kind = .model (Name.ofText meant).pascalCase ∧ st' = st := by
  obtain ⟨w, inner, usage', type, hw, hleaf, ht⟩ := exists_walk_of_resolve h
  obtain ⟨hlayers, hmodel⟩ := hmeans.walk_eq hw
  rw [hmodel] at hleaf
  cases hleaf
  rw [ht, Walk.wrap, hlayers]
  exact ⟨rfl, rfl⟩

/-- A position that resolves to a model is another name for its schema, or the name of the model was
free. -/
theorem means_of_resolve {n : String} (h : (r.resolve usage node).outcome st = (.ok t, st'))
    (ht : t.kind = .model n) :
    (∃ meant, r.components.Means node meant ∧ n = (Name.ofText meant).pascalCase) ∨
      n ∉ st.names.taken := by
  obtain ⟨w, inner, usage', type, hw, hleaf, hkind⟩ := exists_walk_of_resolve h
  rw [hkind, Walk.wrap] at ht
  rcases hlayers : w.layers with _ | ⟨layer, layers⟩
  · rw [hlayers] at ht
    exact (leaf_of_leafType hleaf ht).imp_left fun hmodel =>
      Components.exists_means_of_walk hw hlayers hmodel
  · rw [hlayers] at ht
    cases layer <;> cases ht

end Resolver

end ApiModel
