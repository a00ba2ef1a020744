import ApiModel.Profile.Builtin
import ApiModel.Proofs.Generation.FieldSemantics
import ApiModel.Proofs.Resolution.Faults
import ApiModel.Proofs.Resolution.Relating

/-!
# Schemas that stand for others

A pointer to a schema that is no model stands for that schema: it resolves to the same type, with
the same nullability and the same default, and promotes the same models. That its walk keeps the
names of the components on the way makes no difference, for where a walk would come into one of them
again there is no end without them either.

The lone branch of an all-of gives the shape of the all-of. What its use adds, however, is read off
the all-of and not off the schema to which the branch leads. So the all-of resolves as its branch
does only if that schema has no marker and no default that would count.

## Main definitions

* `Resolving.Agree`: two resolvings that leave the same state, and answer the same or both fail.
* `Usage.Ignores`, `Resolver.Unmarked`: what a schema says of itself does not count where it is
  used.

## Main results

* `Resolver.outcome_of_alias`: a pointer to a schema that is no model.
* `Resolver.shape_of_lone`: the shape of an all-of with a lone branch.
* `Resolver.finish_all_eq_iff`: when an all-of of one branch is finished as the branch is.
* `Resolver.outcome_of_lone_branch`: an all-of of one branch, and nothing else.
-/

namespace ApiModel

/-! ### Resolvings that agree -/

namespace Resolving

variable {α β : Type}

/-- Two resolvings leave the same state, and answer the same or both fail. -/
def Agree (x y : Resolving α) : Prop :=
  ∀ st, (x.outcome st).2 = (y.outcome st).2 ∧ Alike (x.outcome st).1 (y.outcome st).1

@[refl] theorem Agree.refl (x : Resolving α) : Agree x x := fun _ => ⟨rfl, .refl _⟩

theorem Agree.bind {x y : Resolving α} {f g : α → Resolving β} (hx : Agree x y)
    (hf : ∀ a, Agree (f a) (g a)) : Agree (x >>= f) (y >>= g) := by
  intro st
  obtain ⟨hstate, hanswer⟩ := hx st
  rw [outcome_bind, outcome_bind]
  rcases hleft : x.outcome st with ⟨left, st'⟩
  rcases hright : y.outcome st with ⟨right, st''⟩
  rw [hleft, hright] at hstate hanswer
  obtain rfl : st' = st'' := hstate
  rcases hanswer.fail_or_ok with ⟨e, e', rfl, rfl⟩ | ⟨a, rfl, rfl⟩
  · exact ⟨rfl, .error⟩
  · exact hf a st'

theorem congruence_agree : Congruence Agree where
  pure _ := .refl _
  throw _ _ _ := ⟨rfl, .error⟩
  bind := .bind
  promoting _ hbuild :=
    (Agree.refl _).bind fun name => (hbuild name).bind fun _ => .refl _

end Resolving

namespace Resolver

open Resolving

/-! ### Pointers -/

/-- A pointer to a schema that is no model leaves the state that the schema leaves, and answers what
the schema answers, if either does. -/
theorem outcome_of_alias (r : Resolver) (usage : Usage) (st : Promotions) {pointer name : String}
    {n : Nat} {s : Schema} (hname : componentName "schemas" pointer = .ok name)
    (hends : EndsIn "schemas" SchemaNode.referable r.components.schemas n name s)
    (hs : s.isModel = false) :
    ((r.resolve usage (.ref pointer)).outcome st).2 =
        ((r.resolve usage (.inline s)).outcome st).2 ∧
      ∀ t, ((r.resolve usage (.ref pointer)).outcome st).1 = .ok t ↔
        ((r.resolve usage (.inline s)).outcome st).1 = .ok t := by
  have htarget : r.components.target (.ref pointer) = .ok s :=
    follow_eq_ok_iff.mpr ⟨name, n, hname, hends⟩
  have hshape : Agree (r.shape usage (.ref pointer)) (r.shape usage (.inline s)) :=
    related_shape_of_alike congruence_agree
      (Components.walk_pointer_alike hname hends hs usage.location usage.location)
  have hagree : Agree (r.resolve usage (.ref pointer)) (r.resolve usage (.inline s)) := by
    refine hshape.bind fun t => ?_
    rw [htarget]
    exact .refl _
  obtain ⟨hstate, hanswer⟩ := hagree st
  exact ⟨hstate, hanswer.ok_iff⟩

end Resolver

/-! ### A map behind two pointers -/

/-- A map of objects that have no name. -/
def SchemaBody.pouch : Schema where
  type := some (.single .object)
  additionalProperties := some (.schema (.inline
    { type := some (.single .object)
      properties := [("amount", .inline { type := some (.single .string) })] }))

/-- A map of objects behind two pointers. -/
def Components.pouches : Components where
  schemas := [("Bag", .ref (pointerTo "schemas" "Pouch")), ("Pouch", .inline .pouch)]

/-- Two pointers to a map promote its objects as the map itself does. -/
theorem Resolver.outcome_of_bag :
    let r : Resolver := { components := .pouches, profile := .jaxrsSpec, flags := {} }
    let usage : Usage := .standalone "#" "Coin"
    ∃ t st, (r.resolve usage (.ref (pointerTo "schemas" "Bag"))).outcome {} = (.ok t, st) ∧
      (r.resolve usage (.inline .pouch)).outcome {} = (.ok t, st) ∧
      t.name = "Map<String, Coin>" ∧ st.models.map (fun m => m.name.text) = ["Coin"] := by
  intro r usage
  have hends : EndsIn "schemas" SchemaNode.referable r.components.schemas 1 "Bag" .pouch :=
    .pointer rfl rfl rfl (.content rfl rfl)
  have hname : componentName "schemas" (pointerTo "schemas" "Bag") = .ok "Bag" := rfl
  obtain ⟨hstate, hanswer⟩ := r.outcome_of_alias usage {} hname hends rfl
  obtain ⟨t, st, hout, htype⟩ : ∃ t st, (r.resolve usage (.inline .pouch)).outcome {} =
      (.ok t, st) ∧ t.name = "Map<String, Coin>" := Resolving.exists_outcome (by decide +kernel)
  have hmodels : ((r.resolve usage (.inline .pouch)).outcome {}).2.models.map
      (fun m => m.name.text) = ["Coin"] := by decide +kernel
  rw [hout] at hstate hanswer hmodels
  exact ⟨t, st, Prod.ext ((hanswer t).mpr rfl) hstate, hout, htype, hmodels⟩

/-! ### Lone branches -/

namespace Profile

variable {p : Profile} {s : Schema} {type : ResolvedType} {required : Bool}

/-- An empty container is never taken for a declared default. -/
theorem origin_emptyDefault {d : DefaultValue} (h : p.emptyDefault type required = some d) :
    d.origin = .emptyContainer := by
  unfold emptyDefault at h
  split at h
  · obtain ⟨literal, -, rfl⟩ := Option.map_eq_some_iff.mp h
    rfl
  · cases h

/-- A declared default makes no difference only if it has no literal, and there is no default
without it. -/
theorem resolveDefault_eq_emptyDefault_iff :
    p.resolveDefault s type required = p.emptyDefault type required ↔
      ∀ value, s.defaultValue = some value →
        p.declaredDefault value s type = none ∧ p.emptyDefault type required = none := by
  unfold resolveDefault
  rcases s.defaultValue with _ | value
  · exact ⟨nofun, fun _ => rfl⟩
  dsimp only
  constructor
  · rintro heq _ ⟨⟩
    rcases hdefault : p.declaredDefault value s type with _ | d
    · exact ⟨rfl, heq.symm.trans hdefault⟩
    · have hempty := origin_emptyDefault (heq.symm.trans hdefault)
      rw [origin_declaredDefault hdefault] at hempty
      cases hempty
  · intro h
    obtain ⟨hdeclared, hempty⟩ := h value rfl
    rw [hdeclared, hempty]

end Profile

/-- Whether a marker of a schema counts where it is used: it does not if the schema need not be
present. -/
def Usage.Ignores (usage : Usage) (marker : Option Bool) : Prop :=
  match usage.required with
  | some true => marker ≠ some true
  | some false => True
  | none => marker = none

theorem Usage.nullability_all_eq_iff (usage : Usage) (branches : List SchemaNode)
    (target : Schema) : usage.nullability { allOf := branches } = usage.nullability target ↔
      usage.Ignores target.nullableMarker := by
  have hmarker : ({ allOf := branches } : Schema).nullableMarker = none := rfl
  unfold Usage.nullability Usage.Ignores
  rw [hmarker]
  rcases usage.required with _ | _ | _ <;> rcases target.nullableMarker with _ | _ | _ <;>
    simp [Nullability.ofMarker]

namespace Resolver

open Resolving

variable (r : Resolver) (usage : Usage)

/-- What a schema says of itself does not count where it is used with a type. -/
def Unmarked (target : Schema) (type : ResolvedType) : Prop :=
  usage.Ignores target.nullableMarker ∧ ∀ value, target.defaultValue = some value →
    r.profile.declaredDefault value target type = none ∧
      r.profile.emptyDefault type (usage.required.getD false) = none

/-- Schemas with one nullability where they are used finish a shape alike, up to the default. -/
theorem finish_eq_of_nullability {target target' : Schema} (shape : ResolvedType)
    (h : usage.nullability target' = usage.nullability target) :
    r.finish usage target' shape = { r.finish usage target shape with
      defaultValue := (r.finish usage target' shape).defaultValue } := by
  unfold finish
  rw [h]

/-- An all-of finishes a shape as another schema does exactly if what that says does not count. -/
theorem finish_all_eq_iff (branches : List SchemaNode) (target : Schema) (shape : ResolvedType) :
    r.finish usage { allOf := branches } shape = r.finish usage target shape ↔
      r.Unmarked usage target (r.finish usage target shape) := by
  have hnullability := usage.nullability_all_eq_iff branches target
  rw [Unmarked, ← Profile.resolveDefault_eq_emptyDefault_iff, ← defaultValue_finish]
  constructor
  · intro heq
    refine ⟨hnullability.mp ?_, ?_⟩
    · rw [← nullability_finish r, heq, nullability_finish]
    · rw [← heq]
      rfl
  · rintro ⟨hmarker, hdefault⟩
    have heq := r.finish_eq_of_nullability usage shape (hnullability.mpr hmarker)
    have hempty : (r.finish usage { allOf := branches } shape).defaultValue =
        r.profile.emptyDefault (r.finish usage target shape) (usage.required.getD false) := by
      rw [defaultValue_finish, heq]
      rfl
    rw [heq, hempty, ← hdefault]
    rfl

/-- A schema that is left to a lone branch has the shape of the branch. -/
theorem shape_of_lone {s : Schema} {branch : SchemaNode} (h : s.form = .lone branch) :
    r.shape usage (.inline s) = r.shape usage branch := by
  simp only [shape, shapeByWalk, Components.walk_inline, h]

/-- An all-of of one branch and nothing else fails as the branch does, with the same promoted
models. Otherwise both have one shape, and promote the same models. What the use adds to the shape
is the same exactly if neither a marker nor a default of the schema counts to which the branch
leads. -/
theorem outcome_of_lone_branch (branch : SchemaNode) (st : Promotions) :
    (∃ e st', (r.resolve usage branch).outcome st = (.error e, st') ∧
      (r.resolve usage (.inline { allOf := [branch] })).outcome st = (.error e, st')) ∨
    ∃ target shape st', r.components.target branch = .ok target ∧
      (r.resolve usage branch).outcome st = (.ok (r.finish usage target shape), st') ∧
      (r.resolve usage (.inline { allOf := [branch] })).outcome st =
        (.ok (r.finish usage { allOf := [branch] } shape), st') ∧
      (r.finish usage { allOf := [branch] } shape = r.finish usage target shape ↔
        r.Unmarked usage target (r.finish usage target shape)) := by
  have hlone : r.shape usage (.inline { allOf := [branch] }) = r.shape usage branch :=
    r.shape_of_lone usage rfl
  rcases r.resolve_cases usage branch st with
    ⟨e, st', hshape, hbranch⟩ | ⟨shape, target, st', hshape, htarget, hbranch⟩
  · refine .inl ⟨e, st', hbranch, ?_⟩
    rw [resolve, resolveWith, hlone, outcome_bind, hshape]
  · refine .inr ⟨target, shape, st', htarget, hbranch, ?_, r.finish_all_eq_iff usage _ target shape⟩
    rw [resolve, resolveWith, hlone, outcome_bind, hshape]
    rfl

/-- A number that may be null and must be present is boxed. Behind an all-of it is a primitive that
cannot be null. -/
theorem lone_branch_without_marker :
    let r : Resolver := { components := {}, profile := .jaxrsSpec, flags := {} }
    let usage : Usage := { Usage.standalone "#" "Count" with required := some true }
    let count : SchemaNode := .inline { type := some (.single .integer), nullable := some true }
    (∃ t st, (r.resolve usage count).outcome {} = (.ok t, st) ∧
      (t.name, t.nullability) = ("Integer", .nullable)) ∧
    ∃ t st, (r.resolve usage (.inline { allOf := [count] })).outcome {} = (.ok t, st) ∧
      (t.name, t.nullability) = ("int", .nonNull) :=
  ⟨exists_outcome (by decide +kernel), exists_outcome (by decide +kernel)⟩

end Resolver

end ApiModel
