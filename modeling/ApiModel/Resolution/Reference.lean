import ApiModel.Contract.Basic
import ApiModel.Resolution.Error

/-!
# Following references

A pointer names a component of a section. The component may be a pointer in turn; the names
on the way form a chain, in which no name may come twice.

## Main definitions

* `componentName`: the name in a pointer.
* `Chain`: the names on the way.
* `follow`: the content to which a chain of pointers leads.
* `Components.schema`, `Components.target`, `Components.parameter`, `Components.requestBody`,
  `Components.response`: look-ups in a contract.

## Main results

* `weightBeyond_lt`: what is left beyond a chain shrinks with every further name.
-/

namespace ApiModel

/-! ### Pointers -/

/-- The text after a given start. -/
def dropLeading (start text : String) : Option String :=
  if start.toList.isPrefixOf text.toList then
    some (String.ofList (text.toList.drop start.toList.length))
  else none

/-- The pointer to a component of a section. -/
def pointerTo (kind name : String) : String := "#/components/" ++ kind ++ "/" ++ name

/-- The name in a pointer to a component of a section, which is not empty and holds no
slash. -/
def componentName (kind pointer : String) : Except ResolveError String :=
  match dropLeading (pointerTo kind "") pointer with
  | some name =>
    if name.isEmpty || name.toList.contains '/' then .error (.invalidPointer pointer)
    else .ok name
  | none => .error (.invalidPointer pointer)

/-! ### Chains -/

/-- The names that are being expanded, outermost first. -/
structure Chain where
  /-- The names in order. -/
  names : List String := []
  deriving DecidableEq, Repr, Inhabited

namespace Chain

/-- No names. -/
def empty : Chain := {}

/-- The chain with one more name, unless the name is on it. -/
def enter? (c : Chain) (name : String) : Option Chain :=
  if name ∈ c.names then none else some ⟨c.names ++ [name]⟩

/-- The chain without its last name. -/
def leave (c : Chain) : Chain := ⟨c.names.dropLast⟩

/-- The names of the chain, closed by one more. -/
def closedBy (c : Chain) (name : String) : List String := c.names ++ [name]

end Chain

/-! ### What is left beyond a chain -/

/-- The total weight of the entries whose key is not on a list. -/
def weightBeyond {α : Type} (weight : α → Nat) (names : List String) :
    List (String × α) → Nat
  | [] => 0
  | (k, a) :: rest =>
    (if k ∈ names then 0 else weight a) + weightBeyond weight names rest

theorem weightBeyond_append_le {α : Type} (weight : α → Nat) (names : List String)
    (name : String) (entries : List (String × α)) :
    weightBeyond weight (names ++ [name]) entries ≤ weightBeyond weight names entries := by
  induction entries with
  | nil => simp [weightBeyond]
  | cons e rest ih =>
    obtain ⟨k, a⟩ := e
    simp only [weightBeyond, List.mem_append, List.mem_singleton]
    by_cases h : k ∈ names
    · simp only [h, true_or, if_true]
      omega
    · simp only [h, false_or, if_false]
      split <;> omega

/-- An entry that is entered no longer weighs. -/
theorem weightBeyond_lt {α : Type} {weight : α → Nat} {names : List String} {name : String}
    {entries : List (String × α)} {a : α} (found : entries.lookup name = some a)
    (fresh : name ∉ names) :
    weightBeyond weight (names ++ [name]) entries + weight a ≤
      weightBeyond weight names entries := by
  induction entries with
  | nil => simp at found
  | cons e rest ih =>
    obtain ⟨k, b⟩ := e
    by_cases h : name = k
    · subst h
      have : b = a := by simpa using found
      subst this
      have := weightBeyond_append_le weight names name rest
      simp only [weightBeyond, List.mem_append, List.mem_singleton, or_true, if_true, fresh,
        if_false]
      omega
    · have hk : (name == k) = false := by simpa using h
      have found' : rest.lookup name = some a := by simpa [List.lookup_cons, hk] using found
      have := ih found'
      have h' : k ≠ name := fun e => h e.symm
      simp only [weightBeyond, List.mem_append, List.mem_singleton, h', or_false]
      omega

/-! ### Following -/

/-- The content to which a pointer leads, through any number of pointers. A cycle is
reported at `location`, or else at the pointer that closes it. -/
def follow {α β : Type} (kind : String) (view : β → Referable α) (entries : List (String × β))
    (location : Option String) (chain : Chain) (pointer : String) : Except ResolveError α :=
  match componentName kind pointer with
  | .error e => .error e
  | .ok name =>
    if _fresh : name ∈ chain.names then
      .error (.circular (location.getD pointer) (chain.closedBy name))
    else
      match _found : entries.lookup name with
      | none => .error (.missingTarget pointer)
      | some b =>
        match view b with
        | .inline a => .ok a
        | .ref next => follow kind view entries location ⟨chain.closedBy name⟩ next
termination_by weightBeyond (fun _ => 1) chain.names entries
decreasing_by
  have : weightBeyond (fun _ => 1) (chain.names ++ [name]) entries + 1 ≤
      weightBeyond (fun _ => 1) chain.names entries := weightBeyond_lt _found _fresh
  simp only [Chain.closedBy]
  omega

/-- A schema position as a pointer or content. -/
def SchemaNode.referable : SchemaNode → Referable Schema
  | ref pointer => .ref pointer
  | inline s => .inline s

/-! ### Look-ups -/

namespace Components

variable (c : Components)

/-- The names of the schemas in order. -/
def schemaNames : List String := c.schemas.map Prod.fst

/-- The schema of a name. -/
def schema (name : String) : Except ResolveError SchemaNode :=
  match c.schemas.lookup name with
  | some s => .ok s
  | none => .error (.missingTarget (pointerTo "schemas" name))

/-- The schema of a pointer, with its name. -/
def schemaAt (pointer : String) : Except ResolveError (String × SchemaNode) := do
  let name ← componentName "schemas" pointer
  return (name, ← c.schema name)

/-- The schema of its own to which a position leads. -/
def target : SchemaNode → Except ResolveError Schema
  | .inline s => .ok s
  | .ref pointer => follow "schemas" SchemaNode.referable c.schemas none .empty pointer

/-- The parameter to which a pointer leads. -/
def parameter (pointer : String) : Except ResolveError Parameter :=
  follow "parameters" id c.parameters (some pointer) .empty pointer

/-- The body to which a pointer leads. -/
def requestBody (pointer : String) : Except ResolveError RequestBody :=
  follow "requestBodies" id c.requestBodies (some pointer) .empty pointer

/-- The response to which a pointer leads. -/
def response (pointer : String) : Except ResolveError Response :=
  follow "responses" id c.responses (some pointer) .empty pointer

/-- The number of schema positions in all named schemas. -/
def size : Nat := weightBeyond SchemaNode.size [] c.schemas

end Components

/-- The content of a position that may be a pointer. -/
def Referable.get {α : Type} (look : String → Except ResolveError α) :
    Referable α → Except ResolveError α
  | ref pointer => look pointer
  | inline a => .ok a

end ApiModel
