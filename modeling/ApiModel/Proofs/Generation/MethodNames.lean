import ApiModel.Proofs.Generation.Operations

/-!
# The names of methods in the output

An operation asks for a name for its method, and is handed out one that no operation before it has.
Where that is another name than it asks for, the name is cased anew. A number behind a name can join
the word before it, as when `getAB` becomes `getAB2`, whose words are `get` and `AB2`; then the name
that is shown is not the one that was handed out, and some other operation may have it.

## Main definitions

* `MethodName`, `Contract.methodNames`: the names that are asked for and handed out.
* `MethodName.shown`: the name that is shown.

## Main results

* `methodNames_of_generate`: when the names of the methods in an output are distinct.
* `shared_method_name`: a contract for which they are not.
-/

namespace ApiModel

/-- The names of a method: the one that is asked for, and the one that is handed out. -/
structure MethodName where
  asked : String
  handed : String
  deriving DecidableEq

/-- The name that is shown: the one that was asked for, or else what is handed out in its place,
cased anew. -/
def MethodName.shown (n : MethodName) : String :=
  if n.handed = n.asked then n.asked else (Name.ofText n.handed).camelCase

/-- The names for methods when bases are claimed one after the other. -/
def Allocator.methodNames (names : Allocator) (bases : List String) : List MethodName :=
  bases.zipWith MethodName.mk (names.claimAll bases).1

/-- The names of the methods of a contract, in order. -/
def Contract.methodNames (c : Contract) : List MethodName :=
  Allocator.empty.methodNames (c.endpoints.map fun e => (Name.ofText e.operationId).camelCase)

theorem ApiOperation.camelCase_named (op : ApiOperation) (name : String) :
    (op.named name).name.camelCase = MethodName.shown ⟨op.name.camelCase, name⟩ := by
  rw [named, MethodName.shown]
  split <;> rfl

theorem Renames.name_operation (ρ : Renames) (p : Profile) (op : ApiOperation) :
    (ρ.operation p op).name = op.name := by
  rw [operation]
  split <;> rfl

/-- The methods of operations show the names that are handed out one after the other. -/
theorem map_camelCase_takeOperations (p : Profile) (reg : Registry) (names : Allocator)
    (built : List (ApiOperation × List Model)) :
    ((takeOperations p reg names built).1.map fun op => op.name.camelCase) =
      (names.methodNames (built.map fun b => b.1.name.camelCase)).map MethodName.shown := by
  induction built generalizing reg names with
  | nil => rfl
  | cons b rest ih =>
    obtain ⟨op, promoted⟩ := b
    rw [takeOperations, List.map_cons, ih, ApiOperation.camelCase_named, Renames.name_operation]
    rfl

/-- The names that are handed out are distinct. -/
theorem Contract.nodup_handed (c : Contract) : (c.methodNames.map MethodName.handed).Nodup := by
  have hlength : ∀ bases : List String, bases.length = (Allocator.empty.claimAll bases).1.length :=
    fun bases => (Allocator.length_claimAll _ _).symm
  rw [methodNames, Allocator.methodNames, map_zipWith_of_right (fun _ _ => rfl) (hlength _)]
  exact Allocator.nodup_claimAll _ _

/-- The methods in an output show the names that are handed out for the operations of the contract,
of which no two are alike. They are distinct exactly when each shows the name that was handed out
for it, unless no other method shows the same. -/
theorem methodNames_of_generate {c : Contract} {p : Profile} {flags : Flags} {out : TargetModel}
    (h : generate c p flags = .ok out) :
    (c.methodNames.map MethodName.handed).Nodup ∧
    (out.operations.map fun op => op.name.camelCase).Perm (c.methodNames.map MethodName.shown) ∧
    ((out.operations.map fun op => op.name.camelCase).Nodup ↔
      ∀ n ∈ c.methodNames, n.shown = n.handed ∨
        (c.methodNames.map MethodName.shown).count n.shown = 1) := by
  obtain ⟨built, ops, hdeclared, hpartition⟩ := taken_of_generate h
  have hasked : (ops.map fun b => b.1.name.camelCase) =
      c.endpoints.map fun e => (Name.ofText e.operationId).camelCase :=
    (map_eq_map_of_forall₂ hdeclared fun _ _ _ hb => by rw [hb.name]).symm
  have hshown : ((c.taken p built ops).1.map fun op => op.name.camelCase) =
      c.methodNames.map MethodName.shown := by
    rw [Contract.taken, map_camelCase_takeOperations, hasked, Contract.methodNames]
  have hperm : (out.operations.map fun op => op.name.camelCase).Perm
      (c.methodNames.map MethodName.shown) := hshown ▸ hpartition.perm.map _
  refine ⟨c.nodup_handed, hperm, ?_⟩
  rw [hperm.nodup_iff]
  exact nodup_map_iff_of_nodup c.nodup_handed

/-- The second of two methods that ask for one name is shown under the name that is handed out for
it. -/
theorem methodNames_of_repeated_id : ∃ out,
    generate (.fetching [("/pets", "list"), ("/stores", "list")]) .jaxrsSpec {} = .ok out ∧
    (out.operations.map fun op => op.name.camelCase).Perm ["list", "list2"] ∧
    (out.operations.map fun op => op.name.camelCase).Nodup := by
  have hrun : ∃ out, generate (.fetching [("/pets", "list"), ("/stores", "list")]) .jaxrsSpec {} =
      .ok out ∧ out.models.isEmpty = true := exists_of_generate (by decide +kernel)
  obtain ⟨out, h, -⟩ := hrun
  obtain ⟨-, hshown, hnodup⟩ := methodNames_of_generate h
  have hnames : (Contract.fetching [("/pets", "list"), ("/stores", "list")]).methodNames =
      [⟨"list", "list"⟩, ⟨"list", "list2"⟩] := by decide +kernel
  rw [hnames] at hshown hnodup
  have hlist : MethodName.shown ⟨"list", "list"⟩ = "list" := by decide +kernel
  have hlist2 : MethodName.shown ⟨"list", "list2"⟩ = "list2" := by decide +kernel
  refine ⟨out, h, ?_, hnodup.mpr ?_⟩
  · simpa [hlist, hlist2] using hshown
  · simp [hlist, hlist2]

/-- The second method is handed out `getAB2` and shown as `getAb2`, which is what the third one asks
for and is handed out. -/
theorem shared_method_name : ∃ out,
    generate (.fetching [("/one", "get_a_b"), ("/two", "get_a_b"), ("/three", "getAb2")])
      .jaxrsSpec {} = .ok out ∧
    (out.operations.map fun op => op.name.camelCase) = ["getAB", "getAb2", "getAb2"] ∧
    ¬(out.operations.map fun op => op.name.camelCase).Nodup := by
  have hrun : ∃ out, generate (.fetching [("/one", "get_a_b"), ("/two", "get_a_b"),
      ("/three", "getAb2")]) .jaxrsSpec {} = .ok out ∧
        (out.operations.map fun op => op.name.camelCase) = ["getAB", "getAb2", "getAb2"] :=
    exists_of_generate (by decide +kernel)
  obtain ⟨out, h, hnames⟩ := hrun
  exact ⟨out, h, hnames, by rw [hnames]; decide⟩

end ApiModel
