import ApiModel.Proofs.Document.Entries
import ApiModel.Proofs.Resolution.HeldProperties

/-!
# What several schemas make together

A model that extends a parent and a model of merged branches are both put together from a list of
schemas. A property stands where it is declared first, with the schema with which it is declared
last. What becomes of the merged schemas otherwise is decided by the first schema that says
something, and they can be merged as long as no two of them say different things.

## Main definitions

* `declarations`: the properties that schemas declare, one schema after the other.
* `RequiredBy`, `RequiredWhereDeclared`: names that are required by any schema, and by one that
  declares them.
* `JoinedFrom`: properties are those that schemas declare together.
* `Unmergeable`: schemas that cannot be merged.

## Main results

* `JoinedFrom.eq_of_joinedFrom`: there is one list of such properties.
* `Merged.addAll_eq_ok_iff`: what schemas are merged into, and when they can be merged.
* `Merged.joinedFrom_toProperties`, `joinedFrom_inheritedProperties`: both ways join properties, but
  require different names.
-/

namespace ApiModel

/-! ### Properties that schemas declare together -/

/-- The properties that schemas declare, one schema after the other. -/
def declarations (schemas : List Schema) : List (String × SchemaNode) :=
  schemas.flatMap SchemaBody.properties

theorem declarations_cons (s : Schema) (schemas : List Schema) :
    declarations (s :: schemas) = s.properties ++ declarations schemas := List.flatMap_cons

/-- One of the schemas requires a property. -/
def RequiredBy (schemas : List Schema) (q : String) : Prop :=
  ∃ s ∈ schemas, q ∈ s.required

/-- One of the schemas requires a property that it declares itself. -/
def RequiredWhereDeclared (schemas : List Schema) (q : String) : Prop :=
  ∃ s ∈ schemas, q ∈ s.properties.map Prod.fst ∧ q ∈ s.required

/-- Properties are those that schemas declare together: in the order in which their names are
declared first, each with the schema with which its name is declared last. Those must be present
whose names are required. -/
structure JoinedFrom (schemas : List Schema) (Required : String → Prop)
    (properties : List Property) : Prop where
  names : properties.map Property.name = ((declarations schemas).map Prod.fst).eraseDups
  nodes : ∀ p ∈ properties, (declarations schemas).reverse.lookup p.name = some p.node
  required : ∀ p ∈ properties, p.required = true ↔ Required p.name

theorem mem_keys_declarations {schemas : List Schema} {q : String} :
    q ∈ (declarations schemas).map Prod.fst ↔ ∃ s ∈ schemas, q ∈ s.properties.map Prod.fst := by
  simp only [declarations, List.map_flatMap, List.mem_flatMap]

/-- The entry of a property in a map of schemas. -/
def Property.entry (p : Property) : String × SchemaNode := (p.name, p.node)

theorem joinedFrom_of_entries {schemas : List Schema} {Required : String → Prop}
    {properties : List Property}
    (h : properties.map Property.entry = ofEntries (declarations schemas))
    (hrequired : ∀ p ∈ properties, p.required = true ↔ Required p.name) :
    JoinedFrom schemas Required properties where
  names := by
    rw [← keys_ofEntries, ← h, List.map_map]
    rfl
  nodes p hp := by
    have hmem : p.entry ∈ ofEntries (declarations schemas) := h ▸ List.mem_map_of_mem hp
    rw [← lookup_ofEntries]
    exact lookup_eq_some_of_mem (nodup_keys_ofEntries _) hmem
  required := hrequired

namespace JoinedFrom

variable {schemas : List Schema} {Required Required' : String → Prop}
  {properties properties' : List Property}

theorem mem_names_iff (h : JoinedFrom schemas Required properties) {q : String} :
    q ∈ properties.map Property.name ↔ ∃ s ∈ schemas, q ∈ s.properties.map Prod.fst := by
  rw [h.names, List.mem_eraseDups, mem_keys_declarations]

/-- Schemas and the names that are required determine the properties. -/
theorem eq_of_joinedFrom (h : JoinedFrom schemas Required properties)
    (h' : JoinedFrom schemas Required properties') : properties = properties' := by
  let parts (p : Property) : String × Option SchemaNode × Prop :=
    (p.name, some p.node, p.required = true)
  let wanted (q : String) : String × Option SchemaNode × Prop :=
    (q, (declarations schemas).reverse.lookup q, Required q)
  have hparts {l : List Property} (hl : JoinedFrom schemas Required l) :
      l.map parts = (((declarations schemas).map Prod.fst).eraseDups).map wanted := by
    rw [← hl.names, List.map_map]
    refine List.map_congr_left fun p hp => ?_
    simp only [parts, wanted, Function.comp, hl.nodes p hp, hl.required p hp]
  have hinjective : Function.Injective parts := by
    rintro ⟨name, node, required⟩ ⟨name', node', required'⟩ heq
    simp only [parts, Prod.mk.injEq, Option.some.injEq, eq_iff_iff, ← Bool.eq_iff_iff] at heq
    obtain ⟨rfl, rfl, rfl⟩ := heq
    rfl
  exact List.map_injective_iff.mpr hinjective ((hparts h).trans (hparts h').symm)

/-- Properties that schemas declare together agree when the names that are required do. -/
theorem eq_iff (h : JoinedFrom schemas Required properties)
    (h' : JoinedFrom schemas Required' properties') : properties = properties' ↔
      ∀ q, (∃ s ∈ schemas, q ∈ s.properties.map Prod.fst) → (Required q ↔ Required' q) := by
  constructor
  · rintro rfl q hq
    obtain ⟨p, hp, rfl⟩ := List.mem_map.mp (h.mem_names_iff.mpr hq)
    exact (h.required p hp).symm.trans (h'.required p hp)
  · intro hagree
    refine h.eq_of_joinedFrom { h' with required := fun p hp => ?_ }
    rw [h'.required p hp, hagree _ (h'.mem_names_iff.mp (List.mem_map_of_mem hp))]

end JoinedFrom

/-! ### Merging -/

/-- Schemas cannot be merged if one of them is a union or an enum, or two of them stand for
different things. -/
def Unmergeable (schemas : List Schema) : Prop :=
  (∃ s ∈ schemas, s.isUnion = true ∨ s.isEnum = true) ∨
    ∃ s ∈ schemas, ∃ s' ∈ schemas, ∃ k k',
      s.mergeKind = some k ∧ s'.mergeKind = some k' ∧ k ≠ k'

namespace Merged

variable {location : String} {schemas : List Schema} {m m' : Merged} {s : Schema} {e : ResolveError}

theorem fault?_eq_none_iff : m.fault? s = none ↔
    (s.isUnion = false ∧ s.isEnum = false) ∧ ∀ k ∈ m.kind, ∀ k' ∈ s.mergeKind, k = k' := by
  rw [fault?]
  cases s.isUnion <;> cases s.isEnum <;> simp
  rcases m.kind with _ | k <;> rcases s.mergeKind with _ | k' <;> simp

/-- Only a fault of one of the schemas keeps them from being merged. -/
theorem exists_fault_of_addAll (h : m.addAll location schemas = .error e) :
    ∃ fault, e = .malformed location fault := by
  induction schemas generalizing m with
  | nil => cases h
  | cons s rest ih =>
    rw [addAll] at h
    split at h
    · cases h
      exact ⟨_, rfl⟩
    · exact ih h

theorem eq_foldl_of_addAll (h : m.addAll location schemas = .ok m') :
    m' = schemas.foldl add m := by
  induction schemas generalizing m with
  | nil =>
    cases h
    rfl
  | cons s rest ih =>
    rw [addAll] at h
    split at h
    · cases h
    · exact ih h

/-- What has been merged is mergeable with more schemas if none of them is a union or an enum, and
all of them stand for what has been merged. -/
theorem exists_addAll_of_kinds (hplain : ∀ s ∈ schemas, s.isUnion = false ∧ s.isEnum = false)
    (k : MergeKind) (hm : ∀ k' ∈ m.kind, k' = k) (hk : ∀ s ∈ schemas, ∀ k' ∈ s.mergeKind, k' = k) :
    ∃ m', m.addAll location schemas = .ok m' := by
  induction schemas generalizing m with
  | nil => exact ⟨m, rfl⟩
  | cons s rest ih =>
    obtain ⟨hplain, hplains⟩ := List.forall_mem_cons.mp hplain
    obtain ⟨hk, hks⟩ := List.forall_mem_cons.mp hk
    have hfault : m.fault? s = none := fault?_eq_none_iff.mpr
      ⟨hplain, fun k₁ h₁ k₂ h₂ => (hm k₁ h₁).trans (hk k₂ h₂).symm⟩
    have hadd : ∀ k' ∈ (m.add s).kind, k' = k := by
      intro k' hk'
      rcases Option.or_eq_some_iff.mp hk' with h | ⟨-, h⟩
      · exact hm k' h
      · exact hk k' h
    obtain ⟨m', hm'⟩ := ih hplains hadd hks
    exact ⟨m', by rw [addAll, hfault]; exact hm'⟩

theorem forall_plain_of_addAll (h : m.addAll location schemas = .ok m') :
    ∀ s ∈ schemas, s.isUnion = false ∧ s.isEnum = false := by
  induction schemas generalizing m with
  | nil =>
    intro s hs
    cases hs
  | cons s rest ih =>
    rw [addAll] at h
    split at h
    · cases h
    next hfault => exact List.forall_mem_cons.mpr ⟨(fault?_eq_none_iff.mp hfault).1, ih h⟩

/-- Schemas are merged one after the other if they can be merged at all. -/
theorem addAll_eq_ok_iff (location : String) : ({} : Merged).addAll location schemas = .ok m ↔
    ¬Unmergeable schemas ∧ m = schemas.foldl add {} := by
  constructor
  · intro h
    refine ⟨?_, eq_foldl_of_addAll h⟩
    rintro (⟨s, hs, hfault⟩ | ⟨s, hs, s', hs', k, k', hk, hk', hne⟩)
    · obtain ⟨hunion, henum⟩ := forall_plain_of_addAll h s hs
      rw [hunion, henum] at hfault
      simp at hfault
    · have hfirst := kind_of_addAll h (.inr ⟨s, hs, hk⟩)
      have hsecond := kind_of_addAll h (.inr ⟨s', hs', hk'⟩)
      exact hne (Option.some.inj (hfirst.symm.trans hsecond))
  · rintro ⟨hmergeable, rfl⟩
    rw [Unmergeable, not_or] at hmergeable
    obtain ⟨hplain, hkinds⟩ := hmergeable
    have hplain (s : Schema) (hs : s ∈ schemas) : s.isUnion = false ∧ s.isEnum = false := by
      constructor <;> by_contra hfault
      · exact hplain ⟨s, hs, .inl (by simpa using hfault)⟩
      · exact hplain ⟨s, hs, .inr (by simpa using hfault)⟩
    -- all schemas that stand for something stand for what the first one does
    obtain ⟨k, hk⟩ : ∃ k, ∀ s ∈ schemas, ∀ k' ∈ s.mergeKind, k' = k := by
      by_cases hsome : ∃ s ∈ schemas, ∃ k, s.mergeKind = some k
      · obtain ⟨s, hs, k, hk⟩ := hsome
        refine ⟨k, fun s' hs' k' hk' => ?_⟩
        by_contra hne
        exact hkinds ⟨s', hs', s, hs, k', k, hk', hk, hne⟩
      · exact ⟨.object, fun s hs k hk => absurd ⟨s, hs, k, hk⟩ hsome⟩
    obtain ⟨m, hm⟩ : ∃ m, ({} : Merged).addAll location schemas = .ok m :=
      exists_addAll_of_kinds hplain k nofun hk
    rw [hm, eq_foldl_of_addAll hm]

/-! #### What is merged -/

theorem kind_foldl_add (m : Merged) :
    (schemas.foldl add m).kind = m.kind.or (schemas.findSome? SchemaBody.mergeKind) := by
  induction schemas generalizing m with
  | nil => simp
  | cons s rest ih =>
    rw [List.foldl_cons, ih, List.findSome?_cons]
    change (m.kind.or s.mergeKind).or _ = _
    rw [Option.or_assoc]
    cases s.mergeKind <;> rfl

theorem value_foldl_add (m : Merged) :
    (schemas.foldl add m).value = m.value.or (schemas.find? SchemaBody.isValue) := by
  induction schemas generalizing m with
  | nil => simp
  | cons s rest ih =>
    rw [List.foldl_cons, ih, List.find?_cons]
    change (m.value.or (if s.isValue then some s else none)).or _ = _
    rw [Option.or_assoc]
    cases s.isValue <;> rfl

theorem discriminator_foldl_add (m : Merged) : (schemas.foldl add m).discriminator =
    m.discriminator.or (schemas.findSome? SchemaBody.discriminator) := by
  induction schemas generalizing m with
  | nil => simp
  | cons s rest ih =>
    rw [List.foldl_cons, ih, List.findSome?_cons]
    change (m.discriminator.or s.discriminator).or _ = _
    rw [Option.or_assoc]
    cases s.discriminator <;> rfl

theorem required_foldl_add (m : Merged) :
    (schemas.foldl add m).required = m.required ++ schemas.flatMap SchemaBody.required := by
  induction schemas generalizing m with
  | nil => simp
  | cons s rest ih =>
    rw [List.foldl_cons, ih, List.flatMap_cons, ← List.append_assoc]
    rfl

theorem properties_foldl_add (m : Merged) : (schemas.foldl add m).properties =
    (declarations schemas).foldl (fun acc e => setEntry e.1 e.2 acc) m.properties := by
  induction schemas generalizing m with
  | nil => rfl
  | cons s rest ih =>
    rw [List.foldl_cons, ih, declarations_cons, List.foldl_append]
    rfl

variable (schemas)

theorem entries_toProperties :
    (schemas.foldl add {}).toProperties.map Property.entry = ofEntries (declarations schemas) := by
  rw [toProperties, List.map_map, properties_foldl_add, ofEntries]
  exact List.map_id' _

/-- Merged schemas have the properties that they declare together, of which those must be present
that one of the schemas requires. -/
theorem joinedFrom_toProperties :
    JoinedFrom schemas (RequiredBy schemas) (schemas.foldl add {}).toProperties := by
  refine joinedFrom_of_entries (entries_toProperties schemas) fun p hp => ?_
  rw [toProperties] at hp
  obtain ⟨e, -, rfl⟩ := List.mem_map.mp hp
  rw [required_foldl_add]
  simp [RequiredBy]

end Merged

/-! ### Adding to the properties of a parent -/

/-- The schemas whose properties a model adds to those of its parent: the branches that are no
pointers, and the schema itself. -/
def SchemaBody.propertySets (s : Schema) : List Schema :=
  s.allOf.filterMap SchemaNode.schema? ++ [s]

section AddProperties

variable {s : Schema} {acc : List (String × SchemaNode × Bool)}

theorem entries_addProperties : (addProperties acc s).map (Prod.map id Prod.fst) =
    s.properties.foldl (fun acc e => setEntry e.1 e.2 acc) (acc.map (Prod.map id Prod.fst)) := by
  rw [addProperties]
  exact (List.foldl_hom (List.map (Prod.map id Prod.fst)) fun acc e => setEntry_map Prod.fst e.1
    (e.2, s.isRequired e.1 || (acc.lookup e.1).any Prod.snd) acc).symm

theorem entries_foldl_addProperties (schemas : List Schema)
    (acc : List (String × SchemaNode × Bool)) :
    (schemas.foldl addProperties acc).map (Prod.map id Prod.fst) =
      (declarations schemas).foldl (fun acc e => setEntry e.1 e.2 acc)
        (acc.map (Prod.map id Prod.fst)) := by
  induction schemas generalizing acc with
  | nil => rfl
  | cons s rest ih =>
    rw [List.foldl_cons, ih, entries_addProperties, declarations_cons, List.foldl_append]

/-- A property must be present once a schema has declared it that requires it. -/
theorem required_addProperties (q : String) :
    ((addProperties acc s).lookup q).any Prod.snd = true ↔
      (q ∈ s.properties.map Prod.fst ∧ q ∈ s.required) ∨
        (acc.lookup q).any Prod.snd = true := by
  rw [addProperties]
  induction s.properties generalizing acc with
  | nil => simp
  | cons e rest ih =>
    rw [List.foldl_cons, ih, lookup_setEntry, List.map_cons, List.mem_cons]
    by_cases hq : q = e.1
    · subst hq
      simp [SchemaBody.isRequired]
      tauto
    · simp [hq]

theorem required_foldl_addProperties (schemas : List Schema)
    (acc : List (String × SchemaNode × Bool)) (q : String) :
    ((schemas.foldl addProperties acc).lookup q).any Prod.snd = true ↔
      (∃ s ∈ schemas, q ∈ s.properties.map Prod.fst ∧ q ∈ s.required) ∨
        (acc.lookup q).any Prod.snd = true := by
  induction schemas generalizing acc with
  | nil => simp
  | cons s rest ih =>
    rw [List.foldl_cons, ih, required_addProperties, List.exists_mem_cons_iff, ← or_assoc]
    exact or_congr_left or_comm

end AddProperties

variable (s : Schema)

theorem entries_inheritedProperties :
    (inheritedProperties s).map Property.entry = ofEntries (declarations s.propertySets) := by
  rw [inheritedProperties, List.map_map]
  exact entries_foldl_addProperties s.propertySets []

/-- A model adds the properties that its branches and its schema declare together, of which those
must be present that are required where they are declared. -/
theorem joinedFrom_inheritedProperties :
    JoinedFrom s.propertySets (RequiredWhereDeclared s.propertySets) (inheritedProperties s) := by
  refine joinedFrom_of_entries (entries_inheritedProperties s) fun p hp => ?_
  obtain ⟨⟨name, node, required⟩, he, rfl⟩ := List.mem_map.mp hp
  have hnodup : ((s.propertySets.foldl addProperties []).map Prod.fst).Nodup := by
    have hkeys := congrArg (List.map Prod.fst) (entries_foldl_addProperties s.propertySets [])
    rw [List.map_map] at hkeys
    exact (congrArg List.Nodup hkeys).mpr (nodup_keys_ofEntries _)
  have hfound : (s.propertySets.foldl addProperties []).lookup name = some (node, required) :=
    lookup_eq_some_of_mem hnodup he
  have hrequired := required_foldl_addProperties s.propertySets [] name
  rw [hfound] at hrequired
  simpa [RequiredWhereDeclared] using hrequired

end ApiModel
