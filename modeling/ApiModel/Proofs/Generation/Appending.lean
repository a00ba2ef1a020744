import ApiModel.Proofs.Generation.Operations

/-!
# Appended paths leave the output as it was

The operations of a contract are taken in order: the registry of promoted models only grows at its
end, a name that has been handed out stays, and an operation comes last in its group. So what is
generated for a contract stays in place when further paths are appended to it.

## Main definitions

* `ApiGroup.ContinuedBy`, `TargetModel.ContinuedBy`: a group and an output with more at their ends.

## Main results

* `takeOperations_append`: operations that are taken first stay first.
* `continuedBy_of_generate`: the output for a contract to which paths are appended.
-/

namespace ApiModel

/-! ### What has more at its end -/

/-- A group that another one continues: the same interface type with more operations. -/
structure ApiGroup.ContinuedBy (g g' : ApiGroup) : Prop where
  name : g'.name = g.name
  apiName : g'.apiName = g.apiName
  operations : g.operations <+: g'.operations

/-- An output that another one continues: with more models, more groups, and more operations in the
groups. -/
structure TargetModel.ContinuedBy (out out' : TargetModel) : Prop where
  models : out.models <+: out'.models
  groups : ∃ first rest, out'.groups = first ++ rest ∧
    List.Forall₂ ApiGroup.ContinuedBy out.groups first

/-- Further operations continue the groups, whatever the groups import. -/
theorem continuedBy_groupOperations (p : Profile) (operations more : List ApiOperation)
    (imports : ApiGroup → List String) : ∃ first rest,
      ((groupOperations p (operations ++ more)).map fun g => { g with imports := imports g }) =
        first ++ rest ∧
      List.Forall₂ ApiGroup.ContinuedBy
        ((groupOperations p operations).map fun g => { g with imports := imports g }) first := by
  obtain ⟨rest, hrest⟩ := groupNames_prefix operations more
  rw [groupOperations_eq, groupOperations_eq, ← hrest, List.map_append, List.map_append]
  refine ⟨_, _, rfl, ?_⟩
  rw [List.forall₂_map_left_iff, List.forall₂_map_left_iff, List.forall₂_map_right_iff,
    List.forall₂_map_right_iff, List.forall₂_same]
  intro name _
  exact ⟨rfl, rfl, by simp [inGroup_append]⟩

/-! ### Taking operations -/

/-- Operations that are taken first stay first, and so do the models that they promote. -/
theorem takeOperations_append (p : Profile) (reg : Registry) (names : Allocator)
    (built more : List (ApiOperation × List Model)) :
    (takeOperations p reg names built).1 <+: (takeOperations p reg names (built ++ more)).1 ∧
      (takeOperations p reg names built).2.entries <+:
        (takeOperations p reg names (built ++ more)).2.entries := by
  induction built generalizing reg names with
  | nil =>
    refine ⟨List.nil_prefix, ?_⟩
    refine registry_takeOperations (Q := fun reg' => reg.entries <+: reg'.entries)
      (fun reg' promoted h => h.trans ?_) more (List.prefix_refl _)
    rw [Registry.entries_adopt]
    exact List.prefix_append _ _
  | cons b rest ih =>
    obtain ⟨op, promoted⟩ := b
    rw [List.cons_append, takeOperations, takeOperations]
    dsimp only
    obtain ⟨hoperations, hentries⟩ := ih (reg.adopt p promoted).2 (names.claim op.name.camelCase).2
    exact ⟨List.prefix_cons_inj _ |>.mpr hoperations, hentries⟩

/-! ### The output -/

/-- The endpoints of appended paths come last. -/
theorem Contract.endpoints_append (c : Contract) (more : List (String × PathItem)) :
    ({ c with paths := c.paths ++ more } : Contract).endpoints =
      c.endpoints ++ ({ c with paths := more } : Contract).endpoints :=
  List.flatMap_append

/-- Operations that are all resolved are resolved one after the other. -/
theorem Resolver.builtOperations_append {r : Resolver} {endpoints more : List Endpoint}
    {ops : List (ApiOperation × List Model)}
    (h : r.builtOperations (endpoints ++ more) = .ok ops) :
    ∃ first rest, r.builtOperations endpoints = .ok first ∧ ops = first ++ rest := by
  rw [builtOperations, List.mapM_append] at h
  simp only [bind, Except.bind, pure, Except.pure] at h
  split at h
  · cases h
  next first hfirst =>
    split at h <;> cases h
    next rest hrest => exact ⟨first, rest, hfirst, rfl⟩

/-- When generating succeeds for a contract with further paths at its end, it succeeds without
them. The models come first among those with the further paths, the groups come first among the
groups, and the operations of a group come first in it. -/
theorem continuedBy_of_generate {c : Contract} {more : List (String × PathItem)} {p : Profile}
    {flags : Flags} {out' : TargetModel}
    (h : generate { c with paths := c.paths ++ more } p flags = .ok out') :
    ∃ out, generate c p flags = .ok out ∧ out.ContinuedBy out' := by
  obtain ⟨built, ops, hbuilt, hops, rfl⟩ := generate_eq_ok_iff.mp h
  rw [c.endpoints_append more] at hops
  obtain ⟨first, rest, hfirst, rfl⟩ := Resolver.builtOperations_append hops
  obtain ⟨⟨operations, hoperations⟩, hentries⟩ := takeOperations_append p
    (takeModels p (.initial c.components.schemaNames) built).2 .empty first rest
  refine ⟨_, generate_eq_ok_iff.mpr ⟨built, first, hbuilt, hfirst, rfl⟩, ?_, ?_⟩
  · exact ((List.prefix_append_right_inj _).mpr (hentries.map Prod.snd)).map _
  · have h := continuedBy_groupOperations p (c.taken p built first).1 operations p.groupImports
    rwa [Contract.taken, hoperations] at h

/-- A further path joins the group of another one, and its operation asks for a name that has been
handed out. -/
theorem continuedBy_of_joined_group : ∃ out out',
    generate (.fetching [("/pets", "find"), ("/stores", "get")]) .jaxrsSpec {} = .ok out ∧
    generate (.fetching [("/pets", "find"), ("/stores", "get"), ("/pets/{id}", "find")])
      .jaxrsSpec {} = .ok out' ∧
    (out'.groups.map fun g => (g.name, g.operations.map fun op => op.name.camelCase)) =
      [("pets", ["find", "find2"]), ("stores", ["get"])] ∧
    out.ContinuedBy out' := by
  have hrun : ∃ out', generate (.fetching [("/pets", "find"), ("/stores", "get"),
      ("/pets/{id}", "find")]) .jaxrsSpec {} = .ok out' ∧
        (out'.groups.map fun g => (g.name, g.operations.map fun op => op.name.camelCase)) =
          [("pets", ["find", "find2"]), ("stores", ["get"])] :=
    exists_of_generate (by decide +kernel)
  obtain ⟨out', h, hgroups⟩ := hrun
  obtain ⟨out, hout, hcontinued⟩ := @continuedBy_of_generate
    (.fetching [("/pets", "find"), ("/stores", "get")])
    (Contract.fetching [("/pets/{id}", "find")]).paths _ _ _ h
  exact ⟨out, out', hout, h, hgroups, hcontinued⟩

end ApiModel
