import ApiModel.Proofs.Name.Allocator
import Mathlib.Data.List.Induction
import Mathlib.Data.Nat.Init

/-!
# Requests to an allocator

One allocator serves any number of requests, to reserve names and to claim them, in any order. All
through such a run a name counts as taken exactly if it has been reserved or handed out before. So
no name is handed out twice, and none that is reserved already. A claim gets its base unless that is
taken, and else the base with the least number from 2 on that makes it new. The search for this
number goes from number to number; it ends, since only finitely many names are taken.

## Main definitions

* `Allocator.Request`, `Allocator.serve`: requests one after the other, and what comes of them.
* `Allocator.reservedBy`, `Allocator.claimedBy`, `Allocator.takenBy`: the names that requests
  reserve, those that are handed out for them, and both together.
* `Allocator.Search`: the search for a number, and where it ends.

## Main results

* `Allocator.search_iff`: a search ends with the least number that makes a name new.
* `Allocator.mem_taken_serve`: what is taken after requests.
* `Allocator.names_of_run`: what claims get in the course of a run.
-/

namespace ApiModel.Allocator

/-! ### The search for a number -/

/-- The search for a number that makes a name new, from a number on: where it ends. -/
inductive Search (a : Allocator) (base : String) : Nat → Nat → Prop where
  | found {n : Nat} (h : numbered base n ∉ a.taken) : Search a base n n
  | next {n m : Nat} (h : numbered base n ∈ a.taken) (rest : Search a base (n + 1) m) :
      Search a base n m

section Search

variable {a : Allocator} {base : String} {n m : Nat}

/-- The search passes by all numbers that make no name new. -/
theorem Search.of_forall_mem (hle : n ≤ m) (hfree : numbered base m ∉ a.taken)
    (htaken : ∀ k, n ≤ k → k < m → numbered base k ∈ a.taken) : a.Search base n m := by
  induction hle using Nat.decreasingInduction with
  | of_succ k hlt ih =>
    exact .next (htaken k (Nat.le_refl k) hlt) (ih fun l hl => htaken l (Nat.le_of_succ_le hl))
  | self => exact .found hfree

/-- A search ends with the least number that makes a name new. -/
theorem search_iff :
    a.Search base n m ↔ IsLeast {k | n ≤ k ∧ numbered base k ∉ a.taken} m := by
  constructor
  · intro h
    induction h with
    | found hfree => exact ⟨⟨Nat.le_refl _, hfree⟩, fun k hk => hk.1⟩
    | next htaken _ ih =>
      refine ⟨⟨Nat.le_of_succ_le ih.1.1, ih.1.2⟩, fun k hk => ih.2 ⟨?_, hk.2⟩⟩
      exact Nat.lt_of_le_of_ne hk.1 fun heq => hk.2 (heq ▸ htaken)
  · rintro ⟨⟨hle, hfree⟩, hleast⟩
    refine .of_forall_mem hle hfree fun k hk hlt => ?_
    by_contra hnot
    exact absurd (hleast ⟨hk, hnot⟩) (Nat.not_le_of_lt hlt)

end Search

/-! ### Requests -/

/-- What an allocator is asked for. -/
inductive Request where
  | reserve (names : List String)
  | claim (base : String)
  deriving DecidableEq, Repr

/-- The names that a request reserves. -/
def Request.reserved : Request → List String
  | reserve names => names
  | claim _ => []

/-- Requests one after the other: the names that are handed out in order, and the allocator that
they leave. -/
def serve (a : Allocator) : List Request → List String × Allocator
  | [] => ([], a)
  | .reserve names :: rest => serve (a.reserve names) rest
  | .claim base :: rest =>
    let (name, a) := a.claim base
    let (names, a) := serve a rest
    (name :: names, a)

/-- The names that requests reserve. -/
def reservedBy (requests : List Request) : List String := requests.flatMap Request.reserved

/-- The names that are handed out for requests to a new allocator. -/
def claimedBy (requests : List Request) : List String := (empty.serve requests).1

/-- The names that are no longer free after requests to a new allocator. -/
def takenBy (requests : List Request) : List String := reservedBy requests ++ claimedBy requests

section Serve

variable (a : Allocator)

theorem serve_append (requests more : List Request) : a.serve (requests ++ more) =
    ((a.serve requests).1 ++ ((a.serve requests).2.serve more).1,
      ((a.serve requests).2.serve more).2) := by
  induction requests generalizing a with
  | nil => rfl
  | cons request rest ih =>
    cases request with
    | reserve names => exact ih _
    | claim base => simp only [List.cons_append, serve, ih]

/-- A name is taken after requests exactly if it has been reserved or handed out, or was taken
before. -/
theorem mem_taken_serve {name : String} (requests : List Request) :
    name ∈ (a.serve requests).2.taken ↔
      name ∈ reservedBy requests ∨ name ∈ (a.serve requests).1 ∨ name ∈ a.taken := by
  induction requests generalizing a with
  | nil => simp [serve, reservedBy]
  | cons request rest ih =>
    cases request with
    | reserve names =>
      rw [serve, ih, reservedBy, reservedBy, List.flatMap_cons, Request.reserved, taken_reserve,
        List.mem_append, List.mem_append]
      tauto
    | claim base =>
      rw [serve, ih, reservedBy, reservedBy, List.flatMap_cons, Request.reserved, taken_claim,
        List.nil_append, List.mem_cons, List.mem_cons]
      tauto

end Serve

/-! ### Runs of a new allocator -/

section Runs

variable (requests : List Request)

theorem mem_takenBy {name : String} :
    name ∈ takenBy requests ↔ name ∈ (empty.serve requests).2.taken := by
  rw [mem_taken_serve, takenBy, List.mem_append, claimedBy, taken_empty]
  simp only [List.not_mem_nil, or_false]

/-- What a claim gets is handed out next, whatever is asked for later. -/
theorem claimedBy_append_claim (base : String) (more : List Request) :
    claimedBy (requests ++ .claim base :: more) =
      claimedBy requests ++ (empty.serve requests).2.grant base ::
        (((empty.serve requests).2.claim base).2.serve more).1 := by
  rw [claimedBy, serve_append]
  rfl

theorem claimedBy_append_reserve (names : List String) :
    claimedBy (requests ++ [.reserve names]) = claimedBy requests := by
  rw [claimedBy, serve_append]
  exact List.append_nil _

/-- All names that are handed out are distinct. -/
theorem nodup_claimedBy : (claimedBy requests).Nodup := by
  induction requests using List.reverseRecOn with
  | nil => exact List.nodup_nil
  | append_singleton before request ih =>
    cases request with
    | reserve names =>
      rw [claimedBy_append_reserve]
      exact ih
    | claim base =>
      -- what is handed out is new to the allocator, which knows all names handed out before
      have hnew : (empty.serve before).2.grant base ∉ claimedBy before := fun hmem =>
        (empty.serve before).2.grant_notMem base
          ((mem_takenBy before).mp (List.mem_append_right _ hmem))
      rw [claimedBy_append_claim]
      exact List.nodup_append_comm.mp (List.nodup_cons.mpr ⟨hnew, ih⟩)

end Runs

/-- In every run of an allocator all names that are handed out are distinct. A claim, whatever has
been asked for before it and is asked for later, gets a name that has not been reserved before: its
base if that is not taken, and else the base with the least number from 2 on that makes it new, with
which the search for a number ends. -/
theorem names_of_run :
    (∀ requests, (claimedBy requests).Nodup) ∧
      ∀ (before : List Request) (base : String), ∃ name,
        (∀ more, claimedBy before ++ [name] <+: claimedBy (before ++ .claim base :: more)) ∧
        name ∉ reservedBy before ∧
        (base ∉ takenBy before → name = base) ∧
        (base ∈ takenBy before → ∃ n, name = base ++ toString n ∧
          IsLeast {k | 2 ≤ k ∧ base ++ toString k ∉ takenBy before} n ∧
          (empty.serve before).2.Search base 2 n) := by
  refine ⟨nodup_claimedBy, fun before base => ?_⟩
  let a := (empty.serve before).2
  have htaken {name : String} : name ∈ takenBy before ↔ name ∈ a.taken := mem_takenBy before
  refine ⟨a.grant base, fun more => ?_, fun hmem => ?_, fun hfree => ?_, fun hmem => ?_⟩
  · rw [claimedBy_append_claim]
    exact ⟨_, List.append_assoc ..⟩
  · exact a.grant_notMem base (htaken.mp (List.mem_append_left _ hmem))
  · exact grant_of_notMem (mt htaken.mpr hfree)
  · have hleast := a.isLeast_freeNumber base
    refine ⟨a.freeNumber base, ?_, ?_, search_iff.mpr hleast⟩
    · rw [grant, if_pos (List.contains_iff_mem.mpr (htaken.mp hmem)), numbered]
    · simpa only [htaken, numbered] using hleast

/-- A base with a number may be claimed itself, and may be reserved later. -/
example : claimedBy [.claim "pet", .claim "pet2", .claim "pet", .reserve ["pet4"], .claim "pet"] =
    ["pet", "pet2", "pet3", "pet5"] := by decide

end ApiModel.Allocator
