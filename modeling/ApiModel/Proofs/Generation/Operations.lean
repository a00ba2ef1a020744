import ApiModel.Proofs.Generation.Output

/-!
# The operations in the output

Every operation that a contract declares is resolved, follows the new names of models, gets a name
of its own and is put into a group. On the way it keeps where it is declared and to which group it
belongs. So the groups of the output hold the declared operations in the order of the contract:
none is lost, none comes twice, and each is in the group that it names.

## Main definitions

* `Contract.routes`: the paths and methods under which a contract declares operations.
* `ApiOperation.DeclaredBy`: what an operation has from where it is declared.

## Main results

* `Resolver.declaredBy_of_run`: what a resolved operation has from where it is declared.
* `taken_of_generate`: the groups hold the operations that are taken.
* `map_takeOperations`: what neither new names of models nor new names of operations change.
* `operations_of_generate`: the operations of the output and their groups.
-/

namespace ApiModel

/-! ### Where operations are declared -/

namespace Endpoint

/-- The path and the method of an operation. -/
def route (e : Endpoint) : String × Method := (e.path, e.method)

/-- The identifier of an operation: the one that it declares, or the name of its route. -/
def operationId (e : Endpoint) : String :=
  e.operation.operationId.getD (Route.operationName e.method e.path)

/-- The group of an operation. -/
def group (e : Endpoint) (flags : Flags) : String :=
  groupOf (e.operation.tags.head?.getD defaultGroup) e.path e.operation.tags flags.useTags

end Endpoint

/-- The path and the method of an operation. -/
def ApiOperation.route (op : ApiOperation) : String × Method := (op.path, op.method)

/-- What an operation has from where it is declared. -/
structure ApiOperation.DeclaredBy (flags : Flags) (e : Endpoint) (op : ApiOperation) : Prop where
  route : op.route = e.route
  name : op.name = Name.ofText e.operationId
  group : op.group = e.group flags
  baseName : op.baseName = e.group flags

namespace Contract

variable (c : Contract)

/-- The paths and methods under which a contract declares operations: the paths in the order of the
document, and the methods of each path in their order. -/
def routes : List (String × Method) :=
  c.paths.flatMap fun (path, item) =>
    (Method.all.filter fun method => (item.operation? method).isSome).map (path, ·)

theorem map_route_endpoints : c.endpoints.map Endpoint.route = c.routes := by
  rw [endpoints, routes, List.map_flatMap]
  refine List.flatMap_congr fun ⟨path, item⟩ _ => ?_
  dsimp only
  rw [PathItem.operations, List.map_map, List.map_filterMap]
  induction Method.all with
  | nil => rfl
  | cons method rest ih =>
    cases h : item.operation? method with
    | none => simpa [h] using ih
    | some op => simpa [h, Endpoint.route] using ih

/-- Where no path comes twice, no pair of path and method does. -/
theorem nodup_routes (h : (c.paths.map Prod.fst).Nodup) : c.routes.Nodup := by
  have hall : Method.all.Nodup := by decide
  rw [routes, List.nodup_flatMap]
  refine ⟨fun e _ => (hall.filter _).map fun _ _ hpair => (Prod.mk.inj hpair).2, ?_⟩
  refine (List.pairwise_map.mp h).imp fun {e e'} hne r hr hr' => ?_
  obtain ⟨_, -, rfl⟩ := List.mem_map.mp hr
  obtain ⟨_, -, hpair⟩ := List.mem_map.mp hr'
  exact hne (Prod.mk.inj hpair).1.symm

end Contract

/-! ### Resolved operations -/

/-- What a resolved operation has from where it is declared. -/
theorem Resolver.declaredBy_of_run {r : Resolver} {e : Endpoint} {op : ApiOperation}
    {promoted : List Model} (h : r.run (r.operation e) = .ok (op, promoted)) :
    op.DeclaredBy r.flags e := by
  obtain ⟨st, hout, -⟩ := exists_outcome_of_run h
  rw [operation] at hout
  dsimp only at hout
  obtain ⟨_, _, -, hout⟩ := Resolving.exists_of_outcome_bind hout
  split at hout
  all_goals
    obtain ⟨_, _, -, hout⟩ := Resolving.exists_of_outcome_bind hout
    obtain ⟨_, _, -, hout⟩ := Resolving.exists_of_outcome_bind hout
    rw [Resolving.outcome_pure] at hout
    cases hout
    exact ⟨rfl, rfl, rfl, rfl⟩

/-! ### Taking operations -/

/-- What neither new names of models nor the name of an operation changes is taken over. -/
theorem map_takeOperations {α : Type} {f : ApiOperation → α} (p : Profile)
    (hrename : ∀ (ρ : Renames) op, f (ρ.operation p op) = f op)
    (hname : ∀ op name, f (op.named name) = f op) (reg : Registry) (names : Allocator)
    (built : List (ApiOperation × List Model)) :
    (takeOperations p reg names built).1.map f = built.map fun b => f b.1 := by
  induction built generalizing reg names with
  | nil => rfl
  | cons b rest ih =>
    obtain ⟨op, promoted⟩ := b
    rw [takeOperations, List.map_cons, List.map_cons, ← ih, hname, hrename]

theorem ApiOperation.route_named (op : ApiOperation) (name : String) :
    (op.named name).route = op.route := by
  rw [named]
  split <;> rfl

theorem ApiOperation.groups_named (op : ApiOperation) (name : String) :
    ((op.named name).group, (op.named name).baseName) = (op.group, op.baseName) := by
  rw [named]
  split <;> rfl

namespace Renames

variable (ρ : Renames) (p : Profile) (op : ApiOperation)

theorem route_operation : (ρ.operation p op).route = op.route := by
  rw [operation]
  split <;> rfl

theorem groups_operation :
    ((ρ.operation p op).group, (ρ.operation p op).baseName) = (op.group, op.baseName) := by
  rw [operation]
  split <;> rfl

end Renames

/-! ### The output -/

section Output

variable {c : Contract} {p : Profile} {flags : Flags} {out : TargetModel}

/-- The operations that are taken are resolved from the declared ones, and the groups of the output
hold them in order. -/
theorem taken_of_generate (h : generate c p flags = .ok out) : ∃ built ops,
    List.Forall₂ (fun e b => b.1.DeclaredBy flags e) c.endpoints ops ∧
    IsPartition out.groups (c.taken p built ops).1 := by
  obtain ⟨built, ops, -, hops, rfl⟩ := generate_eq_ok_iff.mp h
  exact ⟨built, ops, (forall₂_of_mapM_ok hops).imp fun _ _ => Resolver.declaredBy_of_run,
    isPartition_of_groupOperations p _ p.groupImports⟩

/-- The operations of the output are those of a list in the order of the contract, each under the
path and method of its declaration and in the group that it names. No two groups have one name, no
group is empty, the groups come in the order of their first operations, and each keeps the order of
its operations. -/
theorem operations_of_generate (h : generate c p flags = .ok out) :
    ∃ operations : List ApiOperation,
      operations.map ApiOperation.route = c.routes ∧
      (∀ op ∈ operations, op.baseName = op.group) ∧
      IsPartition out.groups operations ∧
      ((c.paths.map Prod.fst).Nodup → (out.operations.map ApiOperation.route).Nodup) := by
  obtain ⟨built, ops, hdeclared, hpartition⟩ := taken_of_generate h
  have hroutes : (c.taken p built ops).1.map ApiOperation.route = c.routes := by
    rw [Contract.taken, map_takeOperations p (fun ρ => ρ.route_operation p)
      ApiOperation.route_named, ← c.map_route_endpoints]
    exact (map_eq_map_of_forall₂ hdeclared fun _ _ _ h => h.route.symm).symm
  have hgroups : ∀ op ∈ (c.taken p built ops).1, op.baseName = op.group := by
    intro op hop
    have hmem : (op.group, op.baseName) ∈
        (c.taken p built ops).1.map fun op => (op.group, op.baseName) := List.mem_map_of_mem hop
    rw [Contract.taken, map_takeOperations p (fun ρ => ρ.groups_operation p)
      ApiOperation.groups_named] at hmem
    obtain ⟨b, hb, hpair⟩ := List.mem_map.mp hmem
    obtain ⟨e, -, he⟩ := exists_of_forall₂ hdeclared hb
    rw [he.group, he.baseName] at hpair
    rw [← (Prod.mk.inj hpair).1, ← (Prod.mk.inj hpair).2]
  refine ⟨_, hroutes, hgroups, hpartition, fun hpaths => ?_⟩
  refine ((hpartition.perm.map ApiOperation.route).nodup_iff).mpr ?_
  rw [hroutes]
  exact c.nodup_routes hpaths

end Output

/-! ### Contracts with one operation at each path -/

/-- A contract with one operation at each of its paths, which has no parameters and no content. -/
def Contract.fetching (operations : List (String × String)) : Contract where
  version := "3.0.3"
  info := { title := "fetching", version := "1" }
  paths := operations.map fun (path, operationId) =>
    (path, { operation? := fun
      | .get => some { operationId := some operationId }
      | _ => none })

/-- The paths of a group need not follow one another. -/
theorem operations_of_scattered_paths : ∃ out,
    generate (.fetching [("/pets", "list"), ("/stores", "visit"), ("/pets/{id}", "get")])
      .jaxrsSpec {} = .ok out ∧
    ∃ operations : List ApiOperation,
      operations.map ApiOperation.route =
        [("/pets", .get), ("/stores", .get), ("/pets/{id}", .get)] ∧
      groupNames operations = ["pets", "stores"] ∧ IsPartition out.groups operations ∧
      (out.operations.map ApiOperation.route).Nodup := by
  have hrun : ∃ out, generate (.fetching [("/pets", "list"), ("/stores", "visit"),
      ("/pets/{id}", "get")]) .jaxrsSpec {} = .ok out ∧
        out.groups.map ApiGroup.name = ["pets", "stores"] := exists_of_generate (by decide +kernel)
  obtain ⟨out, h, hnames⟩ := hrun
  obtain ⟨operations, hroutes, -, hpartition, hnodup⟩ := operations_of_generate h
  exact ⟨out, h, operations, hroutes, hpartition.names ▸ hnames, hpartition, hnodup (by decide)⟩

end ApiModel
