import ApiModel.Resolution.Shape
import Mathlib.Data.List.Forall2

/-!
# What a resolving leaves behind

A resolving answers a value or an error, and in both cases leaves a state: what has been
promoted before an error stays. States only grow. A later state has the models of the earlier
one in front, and all further models carry names that were still free before.

## Main definitions

* `Resolving.outcome`: the answer and the state after it.
* `Resolving.Yields`: what holds of an answer and of the models that have been promoted on the way.
* `Promotions.Extends`: how a later state relates to an earlier one.

## Main results

* `Resolving.outcome_bind`, `Resolving.outcome_lift`: the outcome of a sequence and of a check.
* `Resolving.exists_of_outcome_bind`: what a sequence that answers has gone through.
* `Resolving.Yields.bind`, `Resolving.Yields.mapM`: what follows an answer, and answers in order.
* `Resolver.exists_outcome_of_run`: an answer with nothing promoted before.
* `Promotions.Extends.trans`: growing twice is growing.
-/

namespace ApiModel

namespace Resolving

variable {α β γ : Type}

/-- What a resolving answers from a state, and the state that it leaves. -/
def outcome (x : Resolving α) (st : Promotions) : Except ResolveError α × Promotions :=
  x.run.run st

@[simp] theorem outcome_pure (a : α) (st : Promotions) :
    outcome (pure a : Resolving α) st = (.ok a, st) := rfl

@[simp] theorem outcome_throw (e : ResolveError) (st : Promotions) :
    outcome (throw e : Resolving α) st = (.error e, st) := rfl

/-- A check answers and leaves the state as it is. -/
@[simp] theorem outcome_lift (e : Except ResolveError α) (st : Promotions) :
    outcome (liftM e : Resolving α) st = (e, st) := rfl

/-- A sequence goes on from the state that its first part leaves, unless that fails. -/
theorem outcome_bind (x : Resolving α) (f : α → Resolving β) (st : Promotions) :
    outcome (x >>= f) st =
      match outcome x st with
      | (.ok a, st') => outcome (f a) st'
      | (.error e, st') => (.error e, st') := by
  change (ExceptT.bind x f).run.run st = _
  simp only [outcome, ExceptT.bind, ExceptT.mk, ExceptT.run, StateT.run, bind, StateT.bind]
  rcases x st with ⟨_ | _, _⟩ <;> rfl

/-- A sequence that answers goes through an answer of its first part. -/
theorem exists_of_outcome_bind {x : Resolving α} {f : α → Resolving β} {st st' : Promotions} {b : β}
    (h : outcome (x >>= f) st = (.ok b, st')) :
    ∃ a st₁, outcome x st = (.ok a, st₁) ∧ outcome (f a) st₁ = (.ok b, st') := by
  rw [outcome_bind] at h
  rcases hx : outcome x st with ⟨_ | a, st₁⟩ <;> rw [hx] at h
  · cases h
  · exact ⟨a, st₁, rfl, h⟩

/-- A sequence that starts with a check and answers goes on from where it was. -/
theorem exists_of_outcome_lift_bind {e : Except ResolveError α} {f : α → Resolving β}
    {st st' : Promotions} {b : β} (h : outcome (liftM e >>= f) st = (.ok b, st')) :
    ∃ a, e = .ok a ∧ outcome (f a) st = (.ok b, st') := by
  obtain ⟨a, st₁, ha, h⟩ := exists_of_outcome_bind h
  obtain ⟨rfl, rfl⟩ := Prod.mk.inj ha
  exact ⟨a, rfl, h⟩

/-- A sequence that starts with a check that answers. -/
theorem lift_ok_bind (a : α) (f : α → Resolving β) :
    (liftM (.ok a : Except ResolveError α) : Resolving α) >>= f = f a := rfl

/-- A check whose answer is changed. -/
theorem lift_map (x : Except ResolveError α) (f : α → β) :
    (liftM (x.map f) : Resolving β) = (liftM x : Resolving α) >>= fun a => pure (f a) := by
  cases x <;> rfl

/-- A sequence that starts with a changed answer of a check. -/
theorem lift_map_bind (e : Except ResolveError α) (f : α → β) (k : β → Resolving γ) :
    (liftM (e.map f) : Resolving β) >>= k = (liftM e : Resolving α) >>= fun a => k (f a) := by
  cases e <;> rfl

/-- Two checks in a sequence are one check. -/
theorem lift_bind_bind (e : Except ResolveError α) (f : α → Except ResolveError β)
    (k : β → Resolving γ) :
    (liftM (e >>= f) : Resolving β) >>= k =
      (liftM e : Resolving α) >>= fun a => liftM (f a) >>= k := by
  cases e <;> rfl

/-- A check of what may be missing answers and leaves the state as it is. -/
theorem outcome_mapM_lift {g : α → Except ResolveError β} (o : Option α) (st : Promotions) :
    outcome (o.mapM fun a => (liftM (g a) : Resolving β)) st = (o.mapM g, st) := by
  cases o with
  | none => rfl
  | some a =>
    rw [Option.mapM_some, Option.mapM_some, map_eq_pure_bind, outcome_bind, outcome_lift]
    cases g a <;> rfl

/-- An answer that is known by what it says. -/
theorem exists_outcome {x : Resolving α} {st : Promotions} {f : α → β} {b : β}
    (h : (outcome x st).1.toOption.map f = some b) :
    ∃ a st', outcome x st = (.ok a, st') ∧ f a = b := by
  rcases hx : outcome x st with ⟨_ | a, st'⟩ <;> rw [hx] at h
  · cases h
  · exact ⟨a, st', rfl, Option.some.inj h⟩

@[simp] theorem outcome_claim (base : String) (st : Promotions) :
    outcome (Promotions.claim base) st =
      (.ok (st.names.grant base), { st with names := (st.names.claim base).2 }) := rfl

@[simp] theorem outcome_push (m : Model) (st : Promotions) :
    outcome (Promotions.push m) st = (.ok (), { st with models := st.models ++ [m] }) := rfl

/-- Whatever has been promoted before an answer is as it should be if all before the resolving was,
and then so is the answer. -/
def Yields (M : Model → Prop) (x : Resolving α) (Q : α → Prop) : Prop :=
  ∀ ⦃st st' : Promotions⦄ ⦃a : α⦄, outcome x st = (.ok a, st') → (∀ m ∈ st.models, M m) →
    (∀ m ∈ st'.models, M m) ∧ Q a

namespace Yields

variable {M : Model → Prop} {x : Resolving α} {f : α → Resolving β} {Q Q' : α → Prop}
  {R : β → Prop}

theorem pure {a : α} (h : Q a) : Yields M (Pure.pure a) Q := by
  intro st st' b hout hst
  cases hout
  exact ⟨hst, h⟩

theorem throw {e : ResolveError} : Yields M (MonadExcept.throw e) Q :=
  fun _ _ _ hout => nomatch hout

theorem lift {e : Except ResolveError α} (h : ∀ a, e = .ok a → Q a) : Yields M (liftM e) Q := by
  intro st st' a hout hst
  obtain ⟨ha, rfl⟩ := Prod.mk.inj hout
  exact ⟨hst, h a ha⟩

theorem liftOk {e : Except ResolveError α} : Yields M (liftM e) fun a => e = .ok a :=
  lift fun _ h => h

theorem weaken (hx : Yields M x Q) (h : ∀ a, Q a → Q' a) : Yields M x Q' :=
  fun _ _ a hout hst => (hx hout hst).imp_right (h a)

theorem bind (hx : Yields M x Q) (hf : ∀ a, Q a → Yields M (f a) R) : Yields M (x >>= f) R := by
  intro st st' b hout hst
  obtain ⟨a, st₁, ha, hout⟩ := exists_of_outcome_bind hout
  obtain ⟨hst₁, hQ⟩ := hx ha hst
  exact hf a hQ hout hst₁

theorem mapM {P : α → β → Prop} {l : List α} (hf : ∀ a ∈ l, Yields M (f a) (P a)) :
    Yields M (l.mapM f) (List.Forall₂ P l) := by
  induction l with
  | nil => exact .pure .nil
  | cons a l ih =>
    rw [List.mapM_cons]
    exact (hf a List.mem_cons_self).bind fun b hb =>
      (ih fun a' ha' => hf a' (List.mem_cons_of_mem _ ha')).bind fun bs hbs => .pure (.cons hb hbs)

theorem liftOption {g : α → Except ResolveError β} {o : Option α} :
    Yields M (o.mapM fun a => liftM (g a)) fun o' => ∀ b ∈ o', ∃ a ∈ o, g a = .ok b := by
  cases o with
  | none => exact .pure nofun
  | some a =>
    rw [Option.mapM_some, map_eq_pure_bind]
    refine liftOk.bind fun b hb => .pure ?_
    rintro b' ⟨⟩
    exact ⟨a, rfl, hb⟩

theorem claim (base : String) : Yields M (Promotions.claim base) fun _ => True := by
  intro st st' a hout hst
  cases hout
  exact ⟨hst, trivial⟩

theorem push {m : Model} (h : M m) : Yields M (Promotions.push m) fun _ => True := by
  intro st st' a hout hst
  cases hout
  exact ⟨List.forall_mem_append.mpr ⟨hst, List.forall_mem_singleton.mpr h⟩, trivial⟩

end Yields

end Resolving

/-- An answer with nothing promoted before is one from the initial state. -/
theorem Resolver.exists_outcome_of_run {α : Type} {r : Resolver} {x : Resolving α} {a : α}
    {promoted : List Model} (h : r.run x = .ok (a, promoted)) : ∃ st : Promotions,
      x.outcome (.initial r.components) = (.ok a, st) ∧ st.models = promoted := by
  rw [run] at h
  split at h
  next b st hout =>
    cases h
    exact ⟨st, hout, rfl⟩
  next => cases h

/-- What fails from the initial state fails with nothing promoted before. -/
theorem Resolver.run_eq_error {α : Type} {r : Resolver} {x : Resolving α} {e : ResolveError}
    {st : Promotions} (h : x.outcome (.initial r.components) = (.error e, st)) :
    r.run x = .error e := by
  change x.run.run _ = _ at h
  rw [run, h]

/-- What is yielded when nothing has been promoted before. -/
theorem Resolving.Yields.of_run {α : Type} {r : Resolver} {M : Model → Prop} {x : Resolving α}
    {Q : α → Prop} (hx : Yields M x Q) {a : α} {promoted : List Model}
    (h : r.run x = .ok (a, promoted)) : (∀ m ∈ promoted, M m) ∧ Q a := by
  obtain ⟨st, hout, rfl⟩ := Resolver.exists_outcome_of_run h
  exact hx hout fun m hm => nomatch hm

namespace Promotions

/-- A state has grown: its models are followed by others, whose names were free before, and no
name that was taken is free again. -/
structure Extends (before after : Promotions) : Prop where
  /-- The models of the later state. -/
  models : ∃ new, after.models = before.models ++ new ∧
    ∀ m ∈ new, m.name.text ∉ before.names.taken
  /-- Names stay taken. -/
  taken : before.names.taken ⊆ after.names.taken

namespace Extends

variable {a b c : Promotions}

@[refl] theorem refl (a : Promotions) : a.Extends a :=
  ⟨⟨[], by simp, by simp⟩, fun _ h => h⟩

theorem trans (hab : a.Extends b) (hbc : b.Extends c) : a.Extends c := by
  obtain ⟨new, hb, hnew⟩ := hab.models
  obtain ⟨later, hc, hlater⟩ := hbc.models
  refine ⟨⟨new ++ later, by rw [hc, hb, List.append_assoc], fun m hm => ?_⟩,
    List.Subset.trans hab.taken hbc.taken⟩
  rcases List.mem_append.mp hm with hm | hm
  · exact hnew m hm
  · exact fun h => hlater m hm (hab.taken h)

/-- The models of a state stay in front. -/
theorem models_prefix (h : a.Extends b) : a.models <+: b.models := by
  obtain ⟨new, hb, -⟩ := h.models
  exact ⟨new, hb.symm⟩

/-- Taking a name promotes nothing. -/
theorem claim (st : Promotions) (base : String) :
    st.Extends { st with names := (st.names.claim base).2 } :=
  ⟨⟨[], by simp, by simp⟩, fun _ h => by simp [h]⟩

/-- A further model comes under a name that was free. -/
theorem push {m : Model} (h : a.Extends b) (hm : m.name.text ∉ a.names.taken) :
    a.Extends { b with models := b.models ++ [m] } := by
  obtain ⟨new, hb, hnew⟩ := h.models
  refine ⟨⟨new ++ [m], by rw [hb, List.append_assoc], fun m' hm' => ?_⟩, h.taken⟩
  rcases List.mem_append.mp hm' with hm' | hm'
  · exact hnew m' hm'
  · obtain rfl := List.mem_singleton.mp hm'
    exact hm

end Extends

end Promotions

end ApiModel
