/-!
# Handing out unique names

An allocator keeps the names that are taken within one scope. The first claim of a name
keeps it; a later claim of the same name gets the least number from 2 on that makes it new.

## Main definitions

* `Allocator`: the names taken so far.
* `Allocator.reserve`, `Allocator.claim`: take names without and with asking for one.
-/

namespace ApiModel

/-- The names taken in one scope. -/
structure Allocator where
  /-- The names that are no longer free. -/
  taken : List String := []
  deriving Repr, Inhabited

namespace Allocator

/-- An allocator with no name taken. -/
def empty : Allocator := {}

/-- Takes names without handing them out. -/
def reserve (a : Allocator) (names : List String) : Allocator := ⟨names ++ a.taken⟩

/-- The name `base` with the number `n` behind it. -/
def numbered (base : String) (n : Nat) : String := base ++ toString n

/-- The least number from 2 on that makes a name new. Among one number more than there are
taken names, one is free. -/
def freeNumber (a : Allocator) (base : String) : Nat :=
  (((List.range (a.taken.length + 1)).map (· + 2)).find?
    fun n => !a.taken.contains (numbered base n)).getD 2

/-- The name that a claim of `base` gets. -/
def grant (a : Allocator) (base : String) : String :=
  if a.taken.contains base then numbered base (a.freeNumber base) else base

/-- Claims a name: the name that is handed out, and the allocator with it taken. -/
def claim (a : Allocator) (base : String) : String × Allocator :=
  (a.grant base, ⟨a.grant base :: a.taken⟩)

@[simp] theorem taken_empty : empty.taken = [] := rfl

@[simp] theorem taken_reserve (a : Allocator) (names : List String) :
    (a.reserve names).taken = names ++ a.taken := rfl

@[simp] theorem claim_fst (a : Allocator) (base : String) :
    (a.claim base).1 = a.grant base := rfl

@[simp] theorem taken_claim (a : Allocator) (base : String) :
    (a.claim base).2.taken = a.grant base :: a.taken := rfl

/-- Claims several names in order. -/
def claimAll (a : Allocator) : List String → List String × Allocator
  | [] => ([], a)
  | base :: rest =>
    let (name, a) := a.claim base
    let (names, a) := claimAll a rest
    (name :: names, a)

/-- The names that claims of `bases` get, in order, when nothing is taken before. -/
def uniqueNames (bases : List String) : List String := (empty.claimAll bases).1

@[simp] theorem claimAll_nil (a : Allocator) : a.claimAll [] = ([], a) := rfl

theorem length_claimAll (a : Allocator) (bases : List String) :
    (a.claimAll bases).1.length = bases.length := by
  induction bases generalizing a with
  | nil => rfl
  | cons b rest ih => simp [claimAll, ih]

end Allocator

end ApiModel
