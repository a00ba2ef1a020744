import Mathlib.Data.Fintype.Card
import Mathlib.Data.Set.Finite.Basic
import Mathlib.Logic.Relation
import Mathlib.Order.WellFounded

/-!
# Relations without cycles

A relation between finitely many things is well-founded when nothing leads back to itself. What one
relation does another one does too that simulates it.

## Main results

* `wellFounded_swap_iff`: no way goes on for ever exactly when none leads back.
* `wellFounded_swap_of_simulation`, `wellFounded_swap_iff_of_corresponding`: no way goes on for ever
  that is simulated by ways that end.
* `transGen_of_cycle`: a way that lies on a cycle, when something holds of each step on a cycle.
-/

namespace ApiModel

open Relation

variable {α β : Type}

/-- Between finitely many things no way goes on for ever exactly when none leads back. -/
theorem wellFounded_swap_iff {R : α → α → Prop} {l : List α} (hl : ∀ a b, R a b → a ∈ l) :
    WellFounded (Function.swap R) ↔ ∀ a, ¬TransGen R a a := by
  constructor
  · intro h a hcycle
    exact h.transGen.irrefl.irrefl a (transGen_swap.mpr hcycle)
  · intro h
    let T : {a // a ∈ l} → {a // a ∈ l} → Prop := fun a b => TransGen R b.1 a.1
    have htrans : IsTrans _ T := ⟨fun a b c hab hbc => hbc.trans hab⟩
    have hirrefl : Std.Irrefl T := ⟨fun a => h a.1⟩
    have hfinite : Finite {a // a ∈ l} := (List.finite_toSet l).to_subtype
    have hT : WellFounded T := Finite.wellFounded_of_trans_of_irrefl T
    have hacc (a : {a // a ∈ l}) : Acc (Function.swap R) a.1 := by
      induction a using hT.induction with
      | _ a ih =>
        refine .intro _ fun b hab => ?_
        by_cases hb : b ∈ l
        · exact ih ⟨b, hb⟩ (.single hab)
        · exact .intro _ fun c hbc => absurd (hl b c hbc) hb
    refine ⟨fun a => .intro _ fun b hab => ?_⟩
    exact (hacc ⟨a, hl a b hab⟩).inv hab

/-- No way goes on for ever that is simulated by ways that end. -/
theorem wellFounded_swap_of_simulation {S : α → α → Prop} {T : β → β → Prop} (Sim : α → β → Prop)
    (hstart : ∀ b b', T b b' → ∃ a, Sim a b)
    (hstep : ∀ a b b', Sim a b → T b b' → ∃ a', Sim a' b' ∧ S a a')
    (h : WellFounded (Function.swap S)) : WellFounded (Function.swap T) := by
  have hacc (a : α) : ∀ b, Sim a b → Acc (Function.swap T) b := by
    induction a using h.induction with
    | _ a ih =>
      intro b hab
      refine .intro _ fun b' hb' => ?_
      obtain ⟨a', hsim, hnext⟩ := hstep a b b' hab hb'
      exact ih a' hnext b' hsim
  refine ⟨fun b => .intro _ fun b' hb' => ?_⟩
  obtain ⟨a, hab⟩ := hstart b b' hb'
  exact (hacc a b hab).inv hb'

/-- Between things that correspond to each other no way goes on for ever exactly when none does on
the other side, if the same steps lead from what corresponds to what corresponds. -/
theorem wellFounded_swap_iff_of_corresponding {S : α → α → Prop} {T : β → β → Prop}
    (Sim : α → β → Prop) (hleft : ∀ a a', S a a' → (∃ b, Sim a b) ∧ ∃ b', Sim a' b')
    (hright : ∀ b b', T b b' → (∃ a, Sim a b) ∧ ∃ a', Sim a' b')
    (hiff : ∀ a a' b b', Sim a b → Sim a' b' → (S a a' ↔ T b b')) :
    WellFounded (Function.swap S) ↔ WellFounded (Function.swap T) := by
  constructor
  · refine wellFounded_swap_of_simulation Sim (fun b b' hT => (hright b b' hT).1) ?_
    intro a b b' hab hT
    obtain ⟨-, a', ha'⟩ := hright b b' hT
    exact ⟨a', ha', (hiff a a' b b' hab ha').mpr hT⟩
  · refine wellFounded_swap_of_simulation (fun b a => Sim a b) (fun a a' hS => (hleft a a' hS).1) ?_
    intro b a a' hab hS
    obtain ⟨-, b', hb'⟩ := hleft a a' hS
    exact ⟨b', hb', (hiff a a' b b' hab hb').mp hS⟩

/-- A way that lies on a cycle is one of the steps of which something holds that holds of each step
on a cycle. -/
theorem transGen_of_cycle {R S : α → α → Prop}
    (h : ∀ a b, R a b → ReflTransGen R b a → S a b) {a b : α} (hway : TransGen R a b)
    (hback : ReflTransGen R b a) : TransGen S a b := by
  induction hway with
  | single hstep => exact .single (h _ _ hstep hback)
  | tail hway hstep ih =>
    have hlast : S _ _ := h _ _ hstep (hback.trans hway.to_reflTransGen)
    exact (ih (.head hstep hback)).tail hlast

end ApiModel
