import ApiModel.Proofs.Lists
import ApiModel.Proofs.Resolution.Outcome

/-!
# What fails only with some errors

Which errors a check may report is known from the checks of which it is made, and likewise for a
resolving, which may have promoted models before it fails.

## Main definitions

* `FailsOnly`, `Resolving.ReportsOnly`: a check and a resolving that fail only with some errors.

## Main results

* `FailsOnly.bind`, `FailsOnly.mapM`, `Resolving.ReportsOnly.bind`, `Resolving.ReportsOnly.mapM`:
  what follows an answer, and answers in order.
* `Resolver.failsOnly_run`: what fails with nothing promoted before.
-/

namespace ApiModel

/-! ### Checks -/

/-- A check that fails, if it does, with an error of a set. -/
def FailsOnly {α : Type} (F : ResolveError → Prop) (x : Except ResolveError α) : Prop :=
  ∀ e, x = .error e → F e

namespace FailsOnly

variable {α β : Type} {F G : ResolveError → Prop} {x : Except ResolveError α} {e : ResolveError}

theorem ok (a : α) : FailsOnly F (.ok a) := fun _ h => nomatch h

theorem error (h : F e) : FailsOnly (α := α) F (.error e) := fun _ he => Except.error.inj he ▸ h

theorem weaken (hx : FailsOnly F x) (h : ∀ e, F e → G e) : FailsOnly G x :=
  fun e he => h e (hx e he)

/-- The error of such a check may be passed on. -/
theorem passOn (hx : FailsOnly F x) (h : x = .error e) : FailsOnly (α := β) F (.error e) :=
  error (hx e h)

theorem bind {f : α → Except ResolveError β} (hx : FailsOnly F x)
    (hf : ∀ a, x = .ok a → FailsOnly F (f a)) : FailsOnly F (x >>= f) := by
  rcases h : x with e | a
  · exact hx.passOn h
  · exact hf a h

theorem mapM {f : α → Except ResolveError β} {l : List α} (hf : ∀ a ∈ l, FailsOnly F (f a)) :
    FailsOnly F (l.mapM f) := by
  intro e he
  obtain ⟨a, ha, herror⟩ := exists_of_mapM_error he
  exact hf a ha e herror

end FailsOnly

/-! ### Resolvings -/

/-- A resolving that fails, if it does, with an error of a set, whatever has been promoted
before. -/
def Resolving.ReportsOnly {α : Type} (F : ResolveError → Prop) (x : Resolving α) : Prop :=
  ∀ st, FailsOnly F (x.outcome st).1

namespace Resolving.ReportsOnly

variable {α β : Type} {F : ResolveError → Prop} {x : Resolving α} {f : α → Resolving β}

theorem pure (a : α) : ReportsOnly F (Pure.pure a) := fun _ => .ok a

theorem throw {e : ResolveError} (h : F e) : ReportsOnly (α := α) F (MonadExcept.throw e) :=
  fun _ => .error h

theorem lift {e : Except ResolveError α} (h : FailsOnly F e) : ReportsOnly F (liftM e) :=
  fun _ => h

theorem bind (hx : ReportsOnly F x) (hf : ∀ a, ReportsOnly F (f a)) : ReportsOnly F (x >>= f) := by
  intro st
  rw [outcome_bind]
  have hx := hx st
  rcases hout : x.outcome st with ⟨e | a, st'⟩ <;> rw [hout] at hx
  · exact hx.passOn rfl
  · exact hf a st'

/-- What follows a check may rely on its answer. -/
theorem liftBind {e : Except ResolveError α} (h : FailsOnly F e)
    (hf : ∀ a, e = .ok a → ReportsOnly F (f a)) : ReportsOnly F (liftM e >>= f) := by
  intro st
  rw [outcome_bind, outcome_lift]
  rcases he : e with e' | a
  · exact h.passOn he
  · exact hf a he st

theorem mapM {l : List α} (hf : ∀ a ∈ l, ReportsOnly F (f a)) : ReportsOnly F (l.mapM f) := by
  induction l with
  | nil => exact .pure []
  | cons a l ih =>
    rw [List.mapM_cons]
    exact (hf a List.mem_cons_self).bind fun b =>
      (ih fun a' ha' => hf a' (List.mem_cons_of_mem _ ha')).bind fun bs => .pure _

theorem liftOption {g : α → Except ResolveError β} {o : Option α}
    (h : ∀ a, FailsOnly F (g a)) : ReportsOnly F (o.mapM fun a => liftM (g a)) := by
  intro st
  rw [outcome_mapM_lift]
  cases o with
  | none => exact .ok none
  | some a => exact (h a).bind fun b _ => .ok (some b)

theorem claim (base : String) : ReportsOnly F (Promotions.claim base) := fun _ => .ok _

theorem push (m : Model) : ReportsOnly F (Promotions.push m) := fun _ => .ok _

end Resolving.ReportsOnly

/-- What fails with nothing promoted before fails with one of the errors. -/
theorem Resolver.failsOnly_run {α : Type} {r : Resolver} {F : ResolveError → Prop} {x : Resolving α}
    (hx : x.ReportsOnly F) : FailsOnly F (r.run x) := by
  intro e he
  refine hx (Promotions.initial r.components) e ?_
  rw [run] at he
  split at he
  next => cases he
  next e' st hout =>
    obtain rfl : e' = e := Except.error.inj he
    exact congrArg Prod.fst hout

end ApiModel
