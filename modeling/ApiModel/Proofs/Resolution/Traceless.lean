import ApiModel.Profile.Builtin
import ApiModel.Proofs.Name.Allocator
import ApiModel.Proofs.Resolution.Relating

/-!
# Resolving without a trace

The state is read only to find a name that is free, and then this name is taken. Whatever a resolver
does before that is the same from every state and leaves the state as it is. So whether resolving a
schema gives out a name at all depends on the schema alone, and if it gives out none, its answer or
its error is the same from every state, and no state is changed.

## Main definitions

* `Resolving.Claims`: a name is given out.
* `Resolving.Settled`: whether a name is given out does not depend on the state, and what comes of
  the resolving depends on it only if one is.

## Main results

* `Resolving.congruence_settled`: what is built from such resolvings is one.
* `Resolver.resolve_of_not_claims`: a schema for which no name is given out.
-/

namespace ApiModel

namespace Resolving

variable {α β : Type} {x : Resolving α} {f : α → Resolving β}

/-! ### Names that are given out -/

/-- A resolving gives out a name: after it a name is taken that was free before. -/
def Claims (x : Resolving α) (st : Promotions) : Prop :=
  ∃ name ∈ (x.outcome st).2.names.taken, name ∉ st.names.taken

instance (x : Resolving α) (st : Promotions) : Decidable (x.Claims st) :=
  inferInstanceAs (Decidable (∃ name ∈ (x.outcome st).2.names.taken, name ∉ st.names.taken))

/-- Names that are taken stay taken. -/
def Keeps (x : Resolving α) : Prop :=
  ∀ st : Promotions, st.names.taken ⊆ (x.outcome st).2.names.taken

theorem Keeps.bind (hx : Keeps x) (hf : ∀ a, Keeps (f a)) : Keeps (x >>= f) := by
  intro st
  have hfirst := hx st
  rw [outcome_bind]
  rcases hout : x.outcome st with ⟨e | a, st'⟩ <;> rw [hout] at hfirst
  · exact hfirst
  · exact List.Subset.trans hfirst (hf a st')

theorem Keeps.push (m : Model) : Keeps (Promotions.push m) := fun _ _ h => h

/-- Taken names stay taken, and either the resolving does the same from every state, without a
trace, or it gives out a name from every state. -/
structure Settled (x : Resolving α) : Prop where
  /-- Names that are taken stay taken. -/
  keeps : Keeps x
  /-- There is no trace from any state, or one from every state. -/
  traceless_or_claims : (∃ a, ∀ st, x.outcome st = (a, st)) ∨ ∀ st, x.Claims st

namespace Settled

theorem of_traceless {a : Except ResolveError α} (h : ∀ st, x.outcome st = (a, st)) :
    Settled x where
  keeps st := by
    rw [h st]
    exact List.Subset.refl _
  traceless_or_claims := .inl ⟨a, h⟩

theorem bind (hx : Settled x) (hf : ∀ a, Settled (f a)) : Settled (x >>= f) := by
  refine ⟨hx.keeps.bind fun a => (hf a).keeps, ?_⟩
  rcases hx.traceless_or_claims with ⟨e | a, hx⟩ | hclaims
  · exact .inl ⟨.error e, fun st => by rw [outcome_bind, hx]⟩
  · -- nothing has happened yet, so that all depends on what follows the answer
    have hrest (st : Promotions) : (x >>= f).outcome st = (f a).outcome st := by
      rw [outcome_bind, hx]
    simpa only [Claims, hrest] using (hf a).traceless_or_claims
  · refine .inr fun st => ?_
    obtain ⟨name, htaken, hfree⟩ := hclaims st
    refine ⟨name, ?_, hfree⟩
    rw [outcome_bind]
    rcases hout : x.outcome st with ⟨e | a, st'⟩ <;> rw [hout] at htaken
    · exact htaken
    · exact (hf a).keeps st' htaken

/-- For a promoted model a name is given out, since it was free before. -/
theorem promoting {build : String → Resolving Model} (base : String)
    (hbuild : ∀ name, Settled (build name)) : Settled (promoting base build) := by
  have hrest (name : String) : Keeps (build name >>= fun m => Promotions.push m >>= fun _ =>
      (Pure.pure name : Resolving String)) :=
    (hbuild name).keeps.bind fun m => (Keeps.push m).bind fun _ => fun _ _ h => h
  have hgranted (st : Promotions) : st.names.grant base :: st.names.taken ⊆
      ((Resolving.promoting base build).outcome st).2.names.taken := by
    rw [Resolving.promoting, outcome_bind, outcome_claim]
    exact hrest (st.names.grant base) { st with names := (st.names.claim base).2 }
  exact ⟨fun st => List.Subset.trans (List.subset_cons_self _ _) (hgranted st),
    .inr fun st => ⟨_, hgranted st List.mem_cons_self, st.names.grant_notMem base⟩⟩

end Settled

/-- Whatever is built from settled resolvings is settled. -/
theorem congruence_settled : Congruence fun x _ => Settled x where
  pure a := .of_traceless fun st => outcome_pure a st
  throw e _ := .of_traceless fun st => outcome_throw e st
  bind hx hf := hx.bind hf
  promoting base hbuild := .promoting base hbuild

/-- A settled resolving that gives out no name from one state gives out none from any other. Its
outcome is the same, and it leaves each state as it is. -/
theorem Settled.eq_of_not_claims (hx : Settled x) {st st' : Promotions} (h : ¬x.Claims st) :
    ¬x.Claims st' ∧ (x.outcome st).1 = (x.outcome st').1 ∧ (x.outcome st).2 = st ∧
      (x.outcome st').2 = st' := by
  rcases hx.traceless_or_claims with ⟨a, hx⟩ | hclaims
  · refine ⟨?_, by rw [hx, hx], by rw [hx], by rw [hx]⟩
    rintro ⟨name, htaken, hfree⟩
    rw [hx] at htaken
    exact hfree htaken
  · exact absurd (hclaims st) h

end Resolving

/-! ### Schemas for which no name is given out -/

/-- If resolving a schema gives out no name from one state, it gives out none from any other. Then
it answers or fails in the same way from both states, and neither the promoted models nor the names
that are taken change. -/
theorem Resolver.resolve_of_not_claims (r : Resolver) (usage : Usage) (node : SchemaNode)
    (st st' : Promotions) (h : ¬(r.resolve usage node).Claims st) :
    ¬(r.resolve usage node).Claims st' ∧
      ((r.resolve usage node).outcome st).1 = ((r.resolve usage node).outcome st').1 ∧
      ((r.resolve usage node).outcome st).2 = st ∧ ((r.resolve usage node).outcome st').2 = st' := by
  have hsettled : Resolving.Settled (r.resolve usage node) :=
    related_resolve Resolving.congruence_settled usage usage.location node
  exact hsettled.eq_of_not_claims h

/-! ### An array of a union -/

/-- An array of texts or numbers. -/
def SchemaNode.mixture : SchemaNode := .inline
  { type := some (.single .array)
    items := some (.inline { oneOf := [.inline { type := some (.single .string) },
      .inline { type := some (.single .number) }] }) }

/-- Nothing is promoted for an array of texts or numbers, and its type is the same after an item has
been promoted for another schema. -/
theorem Resolver.resolve_of_mixture :
    let r : Resolver := { components := {}, profile := .jaxrsSpec, flags := {} }
    let usage : Usage := .standalone "#" "Item"
    let later : Promotions := { models := [{ name := .ofText "Item" }], names := ⟨["Item"]⟩ }
    ¬(r.resolve usage .mixture).Claims {} ∧
      ((r.resolve usage .mixture).outcome {}).1.toOption.map ResolvedType.name =
        some "List<Object>" ∧
      (r.resolve usage .mixture).outcome later =
        (((r.resolve usage .mixture).outcome {}).1, later) := by
  intro r usage later
  have h : ¬(r.resolve usage .mixture).Claims {} := by decide +kernel
  obtain ⟨-, hanswer, -, hlater⟩ := r.resolve_of_not_claims usage .mixture {} later h
  exact ⟨h, by decide +kernel, Prod.ext hanswer.symm hlater⟩

end ApiModel
