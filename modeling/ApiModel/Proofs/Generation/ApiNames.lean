import ApiModel.Proofs.Generation.Operations

/-!
# The names of the interface types in the output

Operations share a group when the tag or the segment of the path by which they are grouped is the
same text, letter by letter. The interface type of a group goes by this text in `PascalCase`, in
which the signs between words and the case of letters are lost. So two groups may have interface
types of one name, and no number is put behind the second one.

## Main definitions

* `Contract.groupKeys`: the texts by which the operations of a contract are grouped.

## Main results

* `Profile.apiName_inj`: when two names give interface types of one name.
* `apiNames_of_generate`: the names of the interface types, and when they are distinct.
* `shared_apiName`: a contract for which they are not.
-/

namespace ApiModel

/-- The texts by which the operations of a contract are grouped, in order of first appearance. -/
def Contract.groupKeys (c : Contract) (flags : Flags) : List String :=
  (c.endpoints.map fun e => e.group flags).eraseDups

theorem Contract.mem_groupKeys {c : Contract} {flags : Flags} {key : String} :
    key ∈ c.groupKeys flags ↔ ∃ e ∈ c.endpoints, e.group flags = key := by
  simp [groupKeys]

/-- Two names give interface types of one name exactly when they are alike in `PascalCase`. -/
theorem Profile.apiName_inj {p : Profile} {n n' : Name} :
    p.apiName n = p.apiName n' ↔ n.pascalCase = n'.pascalCase := by
  refine ⟨fun h => ?_, fun h => by rw [apiName, apiName, h]⟩
  have hlist := congrArg String.toList h
  simp only [apiName, String.toList_append] at hlist
  exact String.toList_inj.mp (List.append_cancel_right hlist)

section Output

variable {c : Contract} {p : Profile} {flags : Flags} {out : TargetModel}

/-- The groups of an output go by the texts by which the operations of the contract are grouped. -/
theorem groupNames_of_generate (h : generate c p flags = .ok out) :
    out.groups.map ApiGroup.name = c.groupKeys flags := by
  obtain ⟨built, ops, hdeclared, hpartition⟩ := taken_of_generate h
  have hgroups : (c.taken p built ops).1.map (fun op => (op.group, op.baseName)) =
      c.endpoints.map fun e => (e.group flags, e.group flags) := by
    rw [Contract.taken, map_takeOperations p (fun ρ => ρ.groups_operation p)
      ApiOperation.groups_named]
    exact (map_eq_map_of_forall₂ hdeclared fun _ _ _ he => by rw [he.group, he.baseName]).symm
  have hkeys := congrArg (List.map Prod.fst) hgroups
  rw [List.map_map, List.map_map] at hkeys
  rw [hpartition.names, groupNames, Contract.groupKeys]
  exact congrArg List.eraseDups hkeys

/-- The interface type of a group goes by the name of the group. -/
theorem apiName_eq_of_generate (h : generate c p flags = .ok out) :
    ∀ g ∈ out.groups, g.apiName = p.apiName (Name.ofText g.name) := by
  obtain ⟨built, ops, -, -, rfl⟩ := generate_eq_ok_iff.mp h
  intro g hg
  rw [Contract.assemble, groupOperations_eq, List.map_map] at hg
  obtain ⟨key, -, rfl⟩ := List.mem_map.mp hg
  rfl

/-- The groups of an output go by the texts by which the operations are grouped, and their interface
types by these texts in `PascalCase`. The names of the interface types are distinct exactly when no
two operations are grouped by different texts that are alike in `PascalCase`, whether it is tags or
paths by which they are grouped. -/
theorem apiNames_of_generate (h : generate c p flags = .ok out) :
    out.groups.map ApiGroup.apiName =
      (c.groupKeys flags).map (fun key => p.apiName (Name.ofText key)) ∧
    ((out.groups.map ApiGroup.apiName).Nodup ↔ ∀ e ∈ c.endpoints, ∀ e' ∈ c.endpoints,
      (Name.ofText (e.group flags)).pascalCase = (Name.ofText (e'.group flags)).pascalCase →
        e.group flags = e'.group flags) := by
  have hnames : out.groups.map ApiGroup.apiName =
      (c.groupKeys flags).map fun key => p.apiName (Name.ofText key) := by
    rw [← groupNames_of_generate h, List.map_map]
    exact List.map_congr_left (apiName_eq_of_generate h)
  have hkeys : (c.groupKeys flags).Nodup := nodup_eraseDups _
  refine ⟨hnames, ?_⟩
  rw [hnames]
  constructor
  · intro hnodup e he e' he' hcase
    exact List.inj_on_of_nodup_map hnodup (Contract.mem_groupKeys.mpr ⟨e, he, rfl⟩)
      (Contract.mem_groupKeys.mpr ⟨e', he', rfl⟩) (Profile.apiName_inj.mpr hcase)
  · intro hinj
    refine hkeys.map_on fun key hkey key' hkey' hname => ?_
    obtain ⟨e, he, rfl⟩ := Contract.mem_groupKeys.mp hkey
    obtain ⟨e', he', rfl⟩ := Contract.mem_groupKeys.mp hkey'
    exact hinj e he e' he' (Profile.apiName_inj.mp hname)

end Output

/-- Pets and stores have interface types of their own. -/
theorem apiNames_of_scattered_paths : ∃ out,
    generate (.fetching [("/pets", "list"), ("/stores", "visit"), ("/pets/{id}", "get")])
      .jaxrsSpec {} = .ok out ∧
    out.groups.map ApiGroup.apiName = ["PetsApi", "StoresApi"] ∧
    (out.groups.map ApiGroup.apiName).Nodup := by
  have hrun : ∃ out, generate (.fetching [("/pets", "list"), ("/stores", "visit"),
      ("/pets/{id}", "get")]) .jaxrsSpec {} = .ok out ∧ out.models.isEmpty = true :=
    exists_of_generate (by decide +kernel)
  obtain ⟨out, h, -⟩ := hrun
  obtain ⟨hnames, hnodup⟩ := apiNames_of_generate h
  exact ⟨out, h, hnames.trans (by decide +kernel), hnodup.mpr (by decide +kernel)⟩

/-- Two paths whose first segments differ in the sign between their words. -/
theorem shared_apiName : ∃ out,
    generate (.fetching [("/pet-store", "list"), ("/petStore", "visit")]) .jaxrsSpec {} = .ok out ∧
    out.groups.map ApiGroup.name = ["pet-store", "petStore"] ∧
    out.groups.map ApiGroup.apiName = ["PetStoreApi", "PetStoreApi"] ∧
    ¬(out.groups.map ApiGroup.apiName).Nodup := by
  have hrun : ∃ out, generate (.fetching [("/pet-store", "list"), ("/petStore", "visit")])
      .jaxrsSpec {} = .ok out ∧ (out.groups.map fun g => (g.name, g.apiName)) =
        [("pet-store", "PetStoreApi"), ("petStore", "PetStoreApi")] :=
    exists_of_generate (by decide +kernel)
  obtain ⟨out, h, hgroups⟩ := hrun
  have hkeys := congrArg (List.map Prod.fst) hgroups
  have hnames := congrArg (List.map Prod.snd) hgroups
  rw [List.map_map] at hkeys hnames
  have hshared : out.groups.map ApiGroup.apiName = ["PetStoreApi", "PetStoreApi"] := hnames
  exact ⟨out, h, hkeys, hshared, by rw [hshared]; decide⟩

end ApiModel
