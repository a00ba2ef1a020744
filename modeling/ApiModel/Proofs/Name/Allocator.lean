import ApiModel.Name.Allocator
import Mathlib.Data.List.Nodup
import Mathlib.Order.Bounds.Defs
import Std.Data.String.ToNat

/-!
# Names that are handed out are new

Numbers behind a base give different names, so among one number more than there are taken names
one makes the base new. A name that is handed out is therefore not taken before, and names that
are claimed one after the other are distinct.

## Main results

* `Allocator.isLeast_freeNumber`: the number behind a base is the least one that makes it new.
* `Allocator.grant_notMem`: a name that is handed out was free.
* `Allocator.grant_eq_or_numbered`: it is the base, or the base with a number behind it.
* `Allocator.nodup_uniqueNames`, `Allocator.uniqueNames_induction`: several claimed names.
-/

namespace ApiModel.Allocator

variable (a : Allocator) (base : String)

/-! ### Numbers behind a base -/

theorem numbered_injective : Function.Injective (numbered base) := fun _ _ h =>
  Nat.repr_injective ((String.append_right_inj base).mp h)

/-- Among one number more than there are taken names, one makes a base new. -/
theorem exists_numbered_notMem :
    ∃ n ∈ (List.range (a.taken.length + 1)).map (· + 2), numbered base n ∉ a.taken := by
  by_contra! hall
  have hnodup : (((List.range (a.taken.length + 1)).map (· + 2)).map (numbered base)).Nodup :=
    (List.nodup_range.map fun _ _ h => Nat.add_right_cancel h).map (numbered_injective base)
  have hle := hnodup.length_le_of_subset fun name hname => by
    obtain ⟨n, hn, rfl⟩ := List.mem_map.mp hname
    exact hall n hn
  simp only [List.length_map, List.length_range] at hle
  omega

/-- The number of a name is the least one from 2 on that makes it new. -/
theorem isLeast_freeNumber :
    IsLeast {n | 2 ≤ n ∧ numbered base n ∉ a.taken} (a.freeNumber base) := by
  obtain ⟨n, hn, hfree⟩ := a.exists_numbered_notMem base
  have hsome : (((List.range (a.taken.length + 1)).map (· + 2)).find?
      fun n => !a.taken.contains (numbered base n)).isSome :=
    List.find?_isSome.mpr ⟨n, hn, by simpa using hfree⟩
  obtain ⟨m, hm⟩ := Option.isSome_iff_exists.mp hsome
  rw [freeNumber, hm, Option.getD_some]
  obtain ⟨hnew, i, hi, rfl, hbefore⟩ := List.find?_eq_some_iff_getElem.mp hm
  rw [List.length_map, List.length_range] at hi
  simp only [List.getElem_map, List.getElem_range] at hnew hbefore ⊢
  refine ⟨⟨Nat.le_add_left 2 i, by simpa using hnew⟩, ?_⟩
  -- a smaller number comes earlier in the list, and is passed by
  rintro k ⟨hk, hfree⟩
  by_contra hlt
  have htaken : numbered base (k - 2 + 2) ∈ a.taken := by
    simpa using hbefore (k - 2) (by omega)
  rw [Nat.sub_add_cancel hk] at htaken
  exact hfree htaken

theorem numbered_freeNumber_notMem : numbered base (a.freeNumber base) ∉ a.taken :=
  (a.isLeast_freeNumber base).1.2

/-! ### One name -/

/-- A name that is handed out was free. -/
theorem grant_notMem : a.grant base ∉ a.taken := by
  rw [grant]
  split
  · exact a.numbered_freeNumber_notMem base
  next h => simpa using h

theorem grant_eq_or_numbered : a.grant base = base ∨ ∃ n, a.grant base = numbered base n := by
  rw [grant]
  split
  · exact .inr ⟨_, rfl⟩
  · exact .inl rfl

variable {a base}

theorem grant_of_notMem (h : base ∉ a.taken) : a.grant base = base := by
  rw [grant, if_neg (by simpa using h)]

/-! ### Several names -/

/-- What holds of the bases, and of a name with a number behind it when it holds of the name,
holds of the names that are handed out. -/
theorem claimAll_induction {P : String → Prop} (numbered : ∀ name n, P name → P (numbered name n))
    {bases : List String} (h : ∀ base ∈ bases, P base) (a : Allocator) :
    ∀ name ∈ (a.claimAll bases).1, P name := by
  induction bases generalizing a with
  | nil => simp
  | cons base rest ih =>
    intro name hname
    rw [claimAll] at hname
    rcases List.mem_cons.mp hname with rfl | hname
    · rw [claim_fst]
      rcases a.grant_eq_or_numbered base with heq | ⟨n, heq⟩ <;> rw [heq]
      · exact h base List.mem_cons_self
      · exact numbered base n (h base List.mem_cons_self)
    · exact ih (fun b hb => h b (List.mem_cons_of_mem _ hb)) _ name hname

theorem uniqueNames_induction {P : String → Prop}
    (numbered : ∀ name n, P name → P (Allocator.numbered name n)) {bases : List String}
    (h : ∀ base ∈ bases, P base) : ∀ name ∈ uniqueNames bases, P name :=
  claimAll_induction numbered h empty

theorem claimAll_notMem (bases : List String) (a : Allocator) :
    ∀ name ∈ (a.claimAll bases).1, name ∉ a.taken := by
  induction bases generalizing a with
  | nil => simp
  | cons base rest ih =>
    intro name hname
    rw [claimAll] at hname
    rcases List.mem_cons.mp hname with rfl | hname
    · exact a.grant_notMem base
    · have hrest := ih (a.claim base).2 name hname
      rw [taken_claim] at hrest
      exact fun h => hrest (List.mem_cons_of_mem _ h)

theorem nodup_claimAll (bases : List String) (a : Allocator) : (a.claimAll bases).1.Nodup := by
  induction bases generalizing a with
  | nil => simp
  | cons base rest ih =>
    rw [claimAll]
    refine List.nodup_cons.mpr ⟨fun h => ?_, ih _⟩
    exact claimAll_notMem rest _ _ h (by simp)

/-- Names that are claimed one after the other are distinct. -/
theorem nodup_uniqueNames (bases : List String) : (uniqueNames bases).Nodup :=
  nodup_claimAll bases empty

@[simp] theorem length_uniqueNames (bases : List String) :
    (uniqueNames bases).length = bases.length :=
  length_claimAll empty bases

end ApiModel.Allocator
