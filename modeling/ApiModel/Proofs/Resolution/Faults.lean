import ApiModel.Profile.Builtin
import ApiModel.Proofs.Resolution.Failing
import ApiModel.Proofs.Resolution.Ways

/-!
# What goes wrong on the way from a schema

A schema fails to resolve together with its shape, for a position that is walked also leads to a
schema through its pointers. Where the way from it meets no union, and nothing that would be
promoted, its shape needs no other shape. Resolving then comes to its end without a trace: it
reports a cycle if the way comes into some component twice, and otherwise only what is wrong at the
place at which the way ends.

## Main definitions

* `SchemaForm.nests`: a schema of the form holds schemas that are resolved on their own.
* `Resolver.FaultAt`: what is wrong at the place at which a way ends.

## Main results

* `Resolver.resolve_cases`: resolving a schema is resolving its shape, and adding what its use adds.
* `Resolver.outcome_shape_of_way`: the shape of a schema, along a way that ends.
* `Resolver.outcome_along_way`: what comes of resolving, by the way alone.
-/

namespace ApiModel

/-- Whether a schema of a form holds schemas that are resolved on their own: the branches of a
union, and the parts of what is promoted. -/
def SchemaForm.nests : SchemaForm → Bool
  | union | composed | object => true
  | _ => false

theorem map_eq_error_iff {α β : Type} {f : α → β} {x : Except ResolveError α} {e : ResolveError} :
    x.map f = .error e ↔ x = .error e := by
  cases x <;> simp [Except.map]

/-- That a check fails which answers is false, like anything else that is false. -/
theorem ok_eq_error_iff {α : Type} {a : α} {e : ResolveError} {P : Prop} (h : ¬P) :
    (.ok a : Except ResolveError α) = .error e ↔ P := ⟨nofun, fun hP => absurd hP h⟩

namespace Resolver

variable {r : Resolver} {usage : Usage} {node : SchemaNode} {st st' : Promotions} {e : ResolveError}

/-! ### A schema and its shape -/

/-- A schema that has a shape leads to a schema through its pointers. -/
theorem exists_target_of_shape {t : ResolvedType}
    (h : (r.shape usage node).outcome st = (.ok t, st')) :
    ∃ s, r.components.target node = .ok s := by
  rw [shape, shapeByWalk] at h
  obtain ⟨w, hw, -⟩ := Resolving.exists_of_outcome_lift_bind h
  exact Components.exists_target_of_walk hw

/-- Resolving a schema fails as resolving its shape does, and otherwise adds to the shape what its
use adds. -/
theorem resolve_cases (r : Resolver) (usage : Usage) (node : SchemaNode) (st : Promotions) :
    (∃ e st', (r.shape usage node).outcome st = (.error e, st') ∧
      (r.resolve usage node).outcome st = (.error e, st')) ∨
    ∃ t s st', (r.shape usage node).outcome st = (.ok t, st') ∧
      r.components.target node = .ok s ∧
      (r.resolve usage node).outcome st = (.ok (r.finish usage s t), st') := by
  rw [resolve, resolveWith, Resolving.outcome_bind]
  rcases hshape : (r.shape usage node).outcome st with ⟨e | t, st'⟩
  · exact .inl ⟨e, st', rfl, rfl⟩
  · obtain ⟨s, hs⟩ := exists_target_of_shape hshape
    refine .inr ⟨t, s, st', rfl, hs, ?_⟩
    dsimp only
    rw [Resolving.outcome_bind, Resolving.outcome_lift, hs]
    rfl

/-- Resolving a schema fails where walking does, before anything is promoted. -/
theorem resolve_of_walk_error (h : r.components.walk .empty usage.location node = .error e) :
    (r.resolve usage node).outcome st = (.error e, st) := by
  rw [resolve, resolveWith, shape, shapeByWalk, h]
  rfl

/-! ### The place at which a way ends -/

/-- What is wrong at a place at which a way ends: a pointer that is malformed or points to nothing,
or a schema of an enum or of types that the platform does not have. -/
inductive FaultAt (r : Resolver) : Place → ResolveError → Prop
  | malformedPointer {location pointer : String} {e : ResolveError}
      (h : componentName "schemas" pointer = .error e) : FaultAt r ⟨location, .ref pointer⟩ e
  | missingTarget {location pointer name : String}
      (hname : componentName "schemas" pointer = .ok name)
      (hnone : r.components.schemas.lookup name = none) :
      FaultAt r ⟨location, .ref pointer⟩ (.missingTarget pointer)
  | badEnum {location : String} {s : Schema} {e : ResolveError} (hform : s.form = .enum)
      (h : r.profile.enumType r.flags s location = .error e) : FaultAt r ⟨location, .inline s⟩ e
  | unmappedAlternative {location : String} {s : Schema} {types : List SchemaType}
      {e : ResolveError} (hform : s.form = .alternatives types)
      (h : (types.mapM fun t => r.profile.primitive t s.format location) = .error e) :
      FaultAt r ⟨location, .inline s⟩ e
  | unmapped {location : String} {s : Schema} {t : SchemaType} {e : ResolveError}
      (hform : s.form = .primitive t) (h : r.profile.primitive t s.format location = .error e) :
      FaultAt r ⟨location, .inline s⟩ e

/-- What is wrong at a place is about this place alone. -/
theorem FaultAt.isLocal {z : Place} (h : r.FaultAt z e) : e.isLocal = true := by
  cases h with
  | malformedPointer h => exact componentName_local _ _ e h
  | missingTarget => rfl
  | badEnum _ h => exact r.profile.enumType_local _ _ _ e h
  | unmappedAlternative _ h => exact FailsOnly.mapM (fun _ _ => r.profile.primitive_local _ _ _) e h
  | unmapped _ h => exact r.profile.primitive_local _ _ _ e h

theorem faultAt_pointer_iff {location pointer : String} :
    r.FaultAt ⟨location, .ref pointer⟩ e ↔ r.components.leafAt (.ref pointer) = .error e := by
  rw [Components.leafAt]
  constructor
  · intro h
    cases h with
    | malformedPointer h => rw [h]
    | missingTarget hname hnone => simp only [hname, hnone]
  · intro h
    split at h
    next e' hname =>
      cases h
      exact .malformedPointer hname
    next name hname =>
      split at h
      next hnone =>
        cases h
        exact .missingTarget hname hnone
      next => cases h

theorem faultAt_schema_iff {location : String} {s : Schema} :
    r.FaultAt ⟨location, .inline s⟩ e ↔
      match s.form with
      | .enum => r.profile.enumType r.flags s location = .error e
      | .alternatives types =>
        (types.mapM fun t => r.profile.primitive t s.format location) = .error e
      | .primitive t => r.profile.primitive t s.format location = .error e
      | _ => False := by
  constructor
  · intro h
    cases h with
    | badEnum hform h | unmappedAlternative hform h | unmapped hform h =>
      rw [hform]
      exact h
  · intro h
    split at h
    next hform => exact .badEnum hform h
    next hform => exact .unmappedAlternative hform h
    next hform => exact .unmapped hform h
    next => exact h.elim

/-- The type of a schema that nests nothing is that of a check, which needs no shape. It fails with
what is wrong where the schema stands. -/
theorem exists_check_of_schema (shape : Shape) (usage : Usage) (location : String) {s : Schema}
    (hplain : s.form.nests = false) : ∃ check : Except ResolveError ResolvedType,
      r.leafType shape { usage with location } (.schema s) = liftM check ∧
        ∀ e, check = .error e ↔ r.FaultAt ⟨location, .inline s⟩ e := by
  simp only [leafType, faultAt_schema_iff]
  rcases hform : s.form with _ | _ | branch | _ | _ | types | items | values | _ | t | _
  case union | composed | object =>
    rw [hform] at hplain
    cases hplain
  case enum => exact ⟨_, (Resolving.lift_map _ _).symm, fun e => map_eq_error_iff⟩
  case alternatives => exact ⟨_, (Resolving.lift_map _ _).symm, fun e => map_eq_error_iff⟩
  case primitive => exact ⟨_, rfl, fun e => .rfl⟩
  case lone | array | map | mapOfAny | any => exact ⟨.ok r.any, rfl, fun e => ok_eq_error_iff id⟩

/-- Likewise for the leaf at the end of a way. -/
theorem exists_check_of_leafAt (shape : Shape) (usage : Usage) {z : Place}
    {leaf : List Layer × Leaf} (hleaf : r.components.leafAt z.node = .ok leaf)
    (hplain : ∀ s, z.node = .inline s → s.form.nests = false) :
    ∃ check : Except ResolveError ResolvedType,
      r.leafType shape { usage with location := z.location } leaf.2 = liftM check ∧
        ∀ e, check = .error e ↔ r.FaultAt z e := by
  obtain ⟨location, node⟩ := z
  cases node with
  | ref pointer =>
    have hnone (e : ResolveError) : ¬r.FaultAt ⟨location, .ref pointer⟩ e := fun h => by
      cases hleaf.symm.trans (faultAt_pointer_iff.mp h)
    rw [Components.leafAt] at hleaf
    rcases hname : componentName "schemas" pointer with e | name <;> simp only [hname] at hleaf
    · cases hleaf
    rcases hfound : r.components.schemas.lookup name with _ | target <;>
      simp only [hfound] at hleaf <;> cases hleaf
    exact ⟨.ok _, rfl, fun e => ok_eq_error_iff (hnone e)⟩
  | inline s =>
    have hschema := exists_check_of_schema (r := r) shape usage location (hplain s rfl)
    rw [Components.leafAt] at hleaf
    rcases hform : s.form with _ | _ | _ | _ | _ | _ | _ | _ | _ | _ | _ <;> rw [hform] at hleaf
    case array | mapOfAny => -- a container of any values
      cases hleaf
      refine ⟨.ok r.any, rfl, fun e => ok_eq_error_iff ?_⟩
      rw [faultAt_schema_iff, hform]
      exact id
    all_goals
      cases hleaf
      exact hschema

/-- Where there is no leaf at the end of a way, this is what is wrong there. -/
theorem faultAt_iff_of_leafAt {z : Place} {e' : ResolveError}
    (h : r.components.leafAt z.node = .error e) : r.FaultAt z e' ↔ e = e' := by
  obtain ⟨location, node⟩ := z
  cases node with
  | ref pointer => rw [faultAt_pointer_iff, h, Except.error.injEq]
  | inline s =>
    rw [Components.leafAt] at h
    split at h <;> cases h

/-! ### Along a way -/

/-- Along a way that ends, a schema has a shape unless something is wrong at the end, and nothing is
promoted. -/
theorem outcome_shape_of_way {n : Nat} {names : List String} {z : Place}
    (h : r.components.Way ⟨usage.location, node⟩ n names z) (hz : r.components.Ends z)
    (hplain : ∀ s, z.node = .inline s → s.form.nests = false) :
    ∃ check : Except ResolveError ResolvedType,
      (∀ st, (r.shape usage node).outcome st = (check, st)) ∧
        ∀ e, check = .error e ↔ r.FaultAt z e := by
  obtain ⟨layers, hwalk⟩ := h.walk_of_ends hz
  simp only [shape, shapeByWalk, hwalk, Resolving.lift_map_bind]
  rcases hleaf : r.components.leafAt z.node with e | leaf
  · refine ⟨.error e, fun st => rfl, fun e' => ?_⟩
    rw [faultAt_iff_of_leafAt hleaf, Except.error.injEq]
  · obtain ⟨check, htype, hcheck⟩ := exists_check_of_leafAt (r.shapeWithin
      (r.components.size + leaf.2.size)) usage hleaf hplain
    refine ⟨check.map fun t => Walk.wrap r.profile ⟨layers ++ leaf.1, z.location, leaf.2⟩ t,
      fun st => ?_, fun e => map_eq_error_iff.trans (hcheck e)⟩
    rw [Resolving.outcome_bind, Resolving.outcome_lift]
    dsimp only
    rw [htype, ← Resolving.lift_map, Resolving.outcome_lift]

/-- What comes of resolving a schema, if the way from it meets no union and nothing that would be
promoted. Resolving comes to its end: as long as the way comes into no component twice, it takes
fewer steps than the contract and the schema have positions. Nothing is promoted. A cycle is
reported exactly if the way comes into some component twice. Otherwise the way has an end, and
resolving fails exactly with what is wrong there. -/
theorem outcome_along_way (r : Resolver) (usage : Usage) (node : SchemaNode) (st : Promotions)
    (hplain : ∀ n names location s,
      r.components.Way ⟨usage.location, node⟩ n names ⟨location, .inline s⟩ →
        s.form.nests = false) :
    (∀ n names z, r.components.Way ⟨usage.location, node⟩ n names z → names.Nodup →
      n < r.components.size + node.size) ∧
    (∀ location, ((r.resolve usage node).outcome st).1 ≠ .error (.endless location)) ∧
    ((r.resolve usage node).outcome st).2 = st ∧
    ((∃ e, ((r.resolve usage node).outcome st).1 = .error e ∧ e.isCircular = true) ↔
      r.components.Revisits ⟨usage.location, node⟩) ∧
    (¬r.components.Revisits ⟨usage.location, node⟩ → ∃ n names z,
      r.components.Way ⟨usage.location, node⟩ n names z ∧ r.components.Ends z ∧
        ∀ e, ((r.resolve usage node).outcome st).1 = .error e ↔ r.FaultAt z e) := by
  refine ⟨fun n names z hway hnodup => hway.lt_size hnodup, ?_⟩
  rcases r.components.ends_or_revisits ⟨usage.location, node⟩ with ⟨n, names, z, hway, hz⟩ | htwice
  · have hend : ∀ s, z.node = .inline s → s.form.nests = false := by
      obtain ⟨location, node⟩ := z
      rintro s rfl
      exact hplain n names location s hway
    obtain ⟨check, hshape, hcheck⟩ := outcome_shape_of_way hway hz hend
    have hfails : ((r.resolve usage node).outcome st).2 = st ∧
        ∀ e, ((r.resolve usage node).outcome st).1 = .error e ↔ r.FaultAt z e := by
      rcases r.resolve_cases usage node st with
        ⟨e', st', hshape', hresolve⟩ | ⟨t, s, st', hshape', -, hresolve⟩
      · obtain ⟨rfl, rfl⟩ := Prod.mk.inj ((hshape st).symm.trans hshape')
        rw [hresolve]
        exact ⟨rfl, hcheck⟩
      · obtain ⟨rfl, rfl⟩ := Prod.mk.inj ((hshape st).symm.trans hshape')
        rw [hresolve]
        exact ⟨rfl, fun e => ok_eq_error_iff fun h => nomatch (hcheck e).mpr h⟩
    refine ⟨fun location h => ?_, hfails.1, ⟨?_, fun h => absurd h (hway.not_revisits hz)⟩,
      fun _ => ⟨n, names, z, hway, hz, hfails.2⟩⟩
    · cases ((hfails.2 _).mp h).isLocal
    · rintro ⟨e, he, hcircular⟩
      have hlocal := ((hfails.2 e).mp he).isLocal
      cases e with
      | circular => cases hlocal
      | _ => cases hcircular
  · obtain ⟨e, hwalk, hcircular⟩ := htwice.walk_circular
    rw [resolve_of_walk_error hwalk]
    refine ⟨?_, rfl, ⟨fun _ => htwice, fun _ => ⟨e, rfl, hcircular⟩⟩, fun h => absurd htwice h⟩
    rintro location ⟨⟩
    cases hcircular

end Resolver

/-! ### Arrays that lead nowhere -/

/-- An array whose items are a named schema. -/
def SchemaNode.arrayOf (name : String) : SchemaNode :=
  .inline { type := some (.single .array), items := some (.ref (pointerTo "schemas" name)) }

/-- An array that leads back to itself, and an array that leads to nothing. -/
def Components.arrays : Components where
  schemas := [("Ring", .arrayOf "Ring"), ("Lost", .arrayOf "Gone")]

/-- From a pointer there is no way to anything but arrays and pointers. -/
theorem Components.Way.nests_of_arrays {location pointer : String} {n : Nat} {names : List String}
    {z : Place} (h : Components.arrays.Way ⟨location, .ref pointer⟩ n names z) {s : Schema}
    (hz : z.node = .inline s) : s.form.nests = false := by
  have hplain : (∃ pointer, z.node = .ref pointer) ∨ ∃ name, z.node = .arrayOf name := by
    refine h.holds
      (P := fun node => (∃ pointer, node = .ref pointer) ∨ ∃ name, node = .arrayOf name)
      (.inl ⟨pointer, rfl⟩) fun a entered b hstep ha => ?_
    cases hstep with
    | @enter _ _ name _ _ hfound =>
      have hmem : (name, _) ∈ Components.arrays.schemas := mem_of_lookup_eq_some hfound
      simp only [arrays, List.mem_cons, Prod.mk.injEq, List.not_mem_nil, or_false] at hmem
      rcases hmem with ⟨-, rfl⟩ | ⟨-, rfl⟩ <;> exact .inr ⟨_, rfl⟩
    | lone hform | values hform =>
      rcases ha with ⟨_, ha⟩ | ⟨_, ha⟩ <;> cases ha
      cases hform
    | items hform =>
      rcases ha with ⟨_, ha⟩ | ⟨_, ha⟩ <;> cases ha
      cases hform
      exact .inl ⟨_, rfl⟩
  rcases hplain with ⟨_, h⟩ | ⟨_, h⟩ <;> cases hz.symm.trans h
  rfl

/-- The array that leads back to itself is reported as a cycle, and of the other one only that its
items are nowhere. -/
theorem Resolver.outcome_of_arrays :
    let r : Resolver := { components := .arrays, profile := .jaxrsSpec, flags := {} }
    let usage : Usage := .standalone "#" "Item"
    (∀ pointer n names location s,
      r.components.Way ⟨usage.location, .ref pointer⟩ n names ⟨location, .inline s⟩ →
        s.form.nests = false) ∧
    (∃ e, ((r.resolve usage (.ref (pointerTo "schemas" "Ring"))).outcome {}).1 = .error e ∧
      e.isCircular = true) ∧
    ((r.resolve usage (.ref (pointerTo "schemas" "Lost"))).outcome {}).1 =
      .error (.missingTarget (pointerTo "schemas" "Gone")) := by
  intro r usage
  have hplain pointer n names location s
      (h : r.components.Way ⟨usage.location, .ref pointer⟩ n names ⟨location, .inline s⟩) :
      s.form.nests = false := h.nests_of_arrays rfl
  refine ⟨hplain, ?_, ?_⟩
  · -- from the pointer the way comes into the array, to its items, and into the array again
    have hway : r.components.Way ⟨usage.location, .ref (pointerTo "schemas" "Ring")⟩ 3
        ["Ring", "Ring"] ⟨pointerTo "schemas" "Ring", .arrayOf "Ring"⟩ :=
      .step (.enter rfl rfl rfl) (.step (.items rfl) (.step (.enter rfl rfl rfl) (.here _)))
    obtain ⟨-, -, -, hcircular, -⟩ := r.outcome_along_way usage _ {} (hplain _)
    exact hcircular.mpr ⟨3, _, _, hway, by decide⟩
  · have hway : r.components.Way ⟨usage.location, .ref (pointerTo "schemas" "Lost")⟩ 2
        ["Lost"] ⟨pointerTo "schemas" "Lost" ++ "/items", .ref (pointerTo "schemas" "Gone")⟩ :=
      .step (.enter rfl rfl rfl) (.step (.items rfl) (.here _))
    have hend : r.components.Ends
        ⟨pointerTo "schemas" "Lost" ++ "/items", .ref (pointerTo "schemas" "Gone")⟩ := by
      rintro _ _ ⟨hname, hfound, -⟩
      cases hname
      cases hfound
    obtain ⟨-, -, -, -, hfails⟩ := r.outcome_along_way usage _ {} (hplain _)
    obtain ⟨n, names, z, hway', hz, hfault⟩ := hfails (hway.not_revisits hend)
    obtain rfl := hway.end_unique hend hway' hz
    exact (hfault _).mpr (.missingTarget rfl rfl)

end ApiModel
