import ApiModel.Proofs.Lists
import ApiModel.Proofs.Resolution.Steps

/-!
# Where chains of pointers end

A pointer names a component, which is a pointer in turn or holds some content. A chain of pointers
ends in the content to which it comes at last. Since a name has one component, a chain that ends
comes to no name twice: from there it would have to go on for as long as before. So following it
meets no name again, and answers that content.

## Main definitions

* `EndsIn`: the content in which the chain from a component ends, and how many pointers lead there.

## Main results

* `EndsIn.unique`: a chain ends after one number of pointers only.
* `follow_eq_ok_iff`: following answers the content in which the chain ends.
-/

namespace ApiModel

variable {α β : Type} {kind : String} {view : β → Referable α} {entries : List (String × β)}

/-- From the component of a name on, a number of pointers lead to some content. -/
inductive EndsIn (kind : String) (view : β → Referable α) (entries : List (String × β)) :
    Nat → String → α → Prop
  | content {name : String} {b : β} {a : α} (hfound : entries.lookup name = some b)
      (hview : view b = .inline a) : EndsIn kind view entries 0 name a
  | pointer {n : Nat} {name pointer next : String} {b : β} {a : α}
      (hfound : entries.lookup name = some b) (hview : view b = .ref pointer)
      (hnext : componentName kind pointer = .ok next) (h : EndsIn kind view entries n next a) :
      EndsIn kind view entries (n + 1) name a

namespace EndsIn

variable {n m : Nat} {name pointer : String} {a a' : α}

/-- A chain ends after one number of pointers only. -/
theorem unique (h : EndsIn kind view entries n name a) (h' : EndsIn kind view entries m name a') :
    n = m := by
  induction h generalizing m with
  | content hfound hview =>
    cases h' with
    | content => rfl
    | pointer hfound' hview' =>
      obtain rfl := Option.some.inj (hfound.symm.trans hfound')
      cases hview.symm.trans hview'
  | pointer hfound hview hnext h ih =>
    cases h' with
    | content hfound' hview' =>
      obtain rfl := Option.some.inj (hfound.symm.trans hfound')
      cases hview.symm.trans hview'
    | pointer hfound' hview' hnext' hrest =>
      obtain rfl := Option.some.inj (hfound.symm.trans hfound')
      obtain rfl := Referable.ref.inj (hview.symm.trans hview')
      obtain rfl := Except.ok.inj (hnext.symm.trans hnext')
      rw [ih hrest]

/-- A chain that ends is followed to its end, if it would go on for longer from every name that has
been passed. -/
theorem follow_eq_ok (h : EndsIn kind view entries n name a) {chain : Chain}
    {location : Option String} (hname : componentName kind pointer = .ok name)
    (hchain : ∀ passed ∈ chain.names, ∀ m a', EndsIn kind view entries m passed a' → n < m) :
    follow kind view entries location chain pointer = .ok a := by
  induction h generalizing chain pointer with
  | content hfound hview =>
    have hfresh := fun hmem => Nat.lt_irrefl _ (hchain _ hmem _ _ (.content hfound hview))
    rw [follow_eq, hname]
    simp only [if_neg hfresh, hfound, hview]
  | pointer hfound hview hnext h ih =>
    have hself := EndsIn.pointer hfound hview hnext h
    have hfresh := fun hmem => Nat.lt_irrefl _ (hchain _ hmem _ _ hself)
    rw [follow_eq, hname]
    simp only [if_neg hfresh, hfound, hview]
    refine ih hnext fun passed hmem m a' h' => ?_
    rcases List.mem_append.mp hmem with hmem | hmem
    · exact Nat.lt_of_succ_lt (hchain passed hmem m a' h')
    · obtain rfl := List.mem_singleton.mp hmem
      exact hself.unique h' ▸ Nat.lt_succ_self _

/-- A chain ends in what some component holds. -/
theorem exists_mem (h : EndsIn kind view entries n name a) :
    ∃ e ∈ entries, view e.2 = .inline a := by
  induction h with
  | content hfound hview => exact ⟨_, mem_of_lookup_eq_some hfound, hview⟩
  | pointer _ _ _ _ ih => exact ih

end EndsIn

/-- Following a pointer answers the content in which the chain of pointers from it ends. -/
theorem follow_eq_ok_iff {location : Option String} {pointer : String} {a : α} :
    follow kind view entries location .empty pointer = .ok a ↔
      ∃ name n, componentName kind pointer = .ok name ∧ EndsIn kind view entries n name a := by
  constructor
  · generalize Chain.empty = chain
    intro h
    fun_induction follow kind view entries location chain pointer with
    | case1 => cases h
    | case2 => cases h
    | case3 => cases h
    | case4 chain pointer name hname _ b hfound a' hview =>
      obtain rfl := Except.ok.inj h
      exact ⟨name, 0, hname, .content hfound hview⟩
    | case5 chain pointer name hname _ b hfound pointer' hview ih =>
      obtain ⟨next, n, hnext, hn⟩ := ih h
      exact ⟨name, n + 1, hname, .pointer hfound hview hnext hn⟩
  · rintro ⟨name, n, hname, h⟩
    exact h.follow_eq_ok hname fun _ hmem => nomatch hmem

/-- What following a pointer answers is what some component holds. -/
theorem exists_mem_of_follow {location : Option String} {pointer : String} {a : α}
    (h : follow kind view entries location .empty pointer = .ok a) :
    ∃ e ∈ entries, view e.2 = .inline a := by
  obtain ⟨_, _, -, hends⟩ := follow_eq_ok_iff.mp h
  exact hends.exists_mem

/-- What holds of the content that stands at a position, and of the content to which any pointer
leads, holds of the content of the position. -/
theorem Referable.holds_of_get {Q : α → Prop} {look : String → Except ResolveError α}
    (hlook : ∀ pointer a, look pointer = .ok a → Q a) {q : Referable α}
    (hq : ∀ a, q = .inline a → Q a) {a : α} (h : q.get look = .ok a) : Q a := by
  cases q with
  | ref pointer => exact hlook pointer a h
  | inline b =>
    cases h
    exact hq a rfl

end ApiModel
