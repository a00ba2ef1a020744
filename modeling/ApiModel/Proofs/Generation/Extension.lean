import ApiModel.Proofs.Generation.FieldSemantics
import ApiModel.Proofs.Resolution.Merging

/-!
# The fields that a model adds to those of its parent

A model that extends a parent has the properties that its branches and its schema declare together,
just as if they were merged. But a property must be present only if a schema requires it that
declares it as well, while merged schemas require it wherever its name is listed. So the two agree
as long as no property is required by a schema that leaves its declaration to another one.

## Main definitions

* `SchemaBody.RequiresItsOwn`: what is required is required where it is declared.

## Main results

* `Resolver.extension_of_compose`: the fields of a model that extends a parent, and when merging the
  same schemas would require the same ones.
* `Resolver.extension_without_required_note`: a property that is listed as required, and is not.
-/

namespace ApiModel

/-- Whatever the branches or the schema itself require and declare is required by one of them that
declares it. -/
def SchemaBody.RequiresItsOwn (s : Schema) : Prop :=
  ∀ q, (∃ t ∈ s.propertySets, q ∈ t.properties.map Prod.fst) → RequiredBy s.propertySets q →
    RequiredWhereDeclared s.propertySets q

theorem RequiredWhereDeclared.requiredBy {schemas : List Schema} {q : String}
    (h : RequiredWhereDeclared schemas q) : RequiredBy schemas q := by
  obtain ⟨t, ht, -, hq⟩ := h
  exact ⟨t, ht, hq⟩

theorem SchemaBody.requiresItsOwn_iff {s : Schema} : s.RequiresItsOwn ↔
    ∀ q, (∃ t ∈ s.propertySets, q ∈ t.properties.map Prod.fst) →
      (RequiredWhereDeclared s.propertySets q ↔ RequiredBy s.propertySets q) :=
  forall_congr' fun _ => forall_congr' fun _ =>
    ⟨fun h => ⟨RequiredWhereDeclared.requiredBy, h⟩, fun h => h.mpr⟩

/-- The properties that a model adds are those of the merged schemas exactly if each is required
where it is declared. -/
theorem inheritedProperties_eq_toProperties_iff (s : Schema) :
    inheritedProperties s = (s.propertySets.foldl Merged.add {}).toProperties ↔
      s.RequiresItsOwn := by
  rw [SchemaBody.requiresItsOwn_iff]
  exact (joinedFrom_inheritedProperties s).eq_iff (Merged.joinedFrom_toProperties s.propertySets)

namespace Resolver

variable {r : Resolver} {shape : Shape} {name : Name} {description : Option String}
  {owner location parent : String} {s : Schema} {m : Model} {st st' : Promotions}

/-- The model of an all-of that has a parent has the fields of the properties that it adds. -/
theorem outcome_fields_of_compose
    (h : (r.compose shape { name, description } owner location s).outcome st = (.ok m, st'))
    (hparent : m.parent = some parent) :
    (r.fields shape owner location (inheritedProperties s)).outcome st = (.ok m.fields, st') := by
  rw [compose_eq] at h
  obtain ⟨form, hform, hout⟩ := Resolving.exists_of_outcome_lift_bind h
  have hsame : form.parent = some parent := by rw [← parent_eq_of_modelOf rfl hout, hparent]
  obtain ⟨-, rfl⟩ := Components.parentOf_of_composedForm hform hsame
  obtain ⟨fields, discriminator, hfields, -, rfl⟩ := outcome_object_iff.mp hout
  exact hfields

theorem required_iff_of_fields {properties : List Property} {fields : List Field}
    (h : List.Forall₂ (Field.IsOf r.components r.profile) properties fields)
    (R : String → Prop) : (∀ f ∈ fields, f.required = true ↔ R f.property) ↔
      ∀ p ∈ properties, p.required = true ↔ R p.name := by
  induction h with
  | nil => simp
  | cons hf _ ih => rw [List.forall_mem_cons, List.forall_mem_cons, hf.required, hf.property, ih]

/-- Whenever an all-of becomes a model with a parent, its fields are resolved from the properties
that its branches declare, except for pointers, and then the schema itself: in the order in which
their names are declared first, each with the schema with which its name is declared last. A field
must be present exactly if its name is required by one of these schemas that declares it as well.
So the fields must be present exactly as all these schemas together say, which is what they would be
merged into, if and only if whatever is required is required where it is declared. -/
theorem extension_of_compose
    (h : (r.compose shape { name, description } owner location s).outcome st = (.ok m, st'))
    (hparent : m.parent = some parent) : ∃ properties,
      JoinedFrom s.propertySets (RequiredWhereDeclared s.propertySets) properties ∧
      (r.fields shape owner location properties).outcome st = (.ok m.fields, st') ∧
      List.Forall₂ (Field.IsOf r.components r.profile) properties m.fields ∧
      ((∀ f ∈ m.fields, f.required = true ↔ RequiredBy s.propertySets f.property) ↔
        s.RequiresItsOwn) ∧
      ∀ merged, ({} : Merged).addAll location s.propertySets = .ok merged →
        (properties = merged.toProperties ↔ s.RequiresItsOwn) := by
  have hjoined := joinedFrom_inheritedProperties s
  have hfields := outcome_fields_of_compose h hparent
  have hsaid := isOf_of_fields hfields
  refine ⟨_, hjoined, hfields, hsaid, ?_, fun merged hmerged => ?_⟩
  · rw [required_iff_of_fields hsaid, SchemaBody.requiresItsOwn_iff]
    constructor
    · intro hrequired q hq
      obtain ⟨p, hp, rfl⟩ := List.mem_map.mp (hjoined.mem_names_iff.mpr hq)
      exact (hjoined.required p hp).symm.trans (hrequired p hp)
    · intro hagree p hp
      exact (hjoined.required p hp).trans
        (hagree _ (hjoined.mem_names_iff.mp (List.mem_map_of_mem hp)))
  · rw [Merged.eq_foldl_of_addAll hmerged]
    exact inheritedProperties_eq_toProperties_iff s

/-- A memo is an entry with a note and a title. The note may be required where it is declared, and
beside it. -/
def memo (inside beside : List String) : Schema where
  allOf := [.ref "#/components/schemas/Entry", .inline
    { type := some (.single .object), properties := [("note", .text)], required := inside }]
  properties := [("title", .text)]
  required := beside

/-- The resolver for memos. -/
def memoResolver : Resolver :=
  (Contract.ofSchemas [("Entry", .objectWith "id" .text)]).resolver .jaxrsSpec {}

/-- The model of a memo. -/
abbrev memoModel (s : Schema) : Resolving Model :=
  memoResolver.compose memoResolver.shape { name := Name.ofText "Memo" } "Memo"
    "#/components/schemas/Memo" s

/-- A note that is required where it is declared must be present. -/
theorem extension_of_memo : ∃ m st properties,
    (memoModel (memo ["note"] [])).outcome {} = (.ok m, st) ∧ m.parent = some "Entry" ∧
    (m.fields.map fun f => (f.property, f.required)) = [("note", true), ("title", false)] ∧
    JoinedFrom (memo ["note"] []).propertySets
      (RequiredWhereDeclared (memo ["note"] []).propertySets) properties ∧
    (∀ f ∈ m.fields,
      f.required = true ↔ RequiredBy (memo ["note"] []).propertySets f.property) := by
  have hrun : ∃ m st, (memoModel (memo ["note"] [])).outcome {} = (.ok m, st) ∧
      (m.parent, m.fields.map fun f => (f.property, f.required)) =
        (some "Entry", [("note", true), ("title", false)]) :=
    Resolving.exists_outcome (by decide +kernel)
  obtain ⟨m, st, hout, hm⟩ := hrun
  obtain ⟨hparent, hfields⟩ := Prod.mk.inj hm
  obtain ⟨properties, hjoined, -, -, hagree, -⟩ := extension_of_compose hout hparent
  refine ⟨m, st, properties, hout, hparent, hfields, hjoined, hagree.mpr ?_⟩
  rintro q - ⟨t, ht, hq⟩
  refine ⟨t, ht, ?_, hq⟩
  -- only the branch requires anything, and what it requires it declares
  rcases List.mem_cons.mp ht with rfl | ht
  · exact hq
  · obtain rfl := List.mem_singleton.mp ht
    cases hq

/-- A note that is required beside its declaration need not be present, though it would have to be
if the same schemas were merged. -/
theorem extension_without_required_note : ∃ m st merged,
    (memoModel (memo [] ["note"])).outcome {} = (.ok m, st) ∧ m.parent = some "Entry" ∧
    (m.fields.map fun f => (f.property, f.required)) = [("note", false), ("title", false)] ∧
    RequiredBy (memo [] ["note"]).propertySets "note" ∧
    ({} : Merged).addAll "#/components/schemas/Memo" (memo [] ["note"]).propertySets =
      .ok merged ∧
    (merged.toProperties.map fun p => (p.name, p.required)) =
      [("note", true), ("title", false)] := by
  have hrun : ∃ m st, (memoModel (memo [] ["note"])).outcome {} = (.ok m, st) ∧
      (m.parent, m.fields.map fun f => (f.property, f.required)) =
        (some "Entry", [("note", false), ("title", false)]) :=
    Resolving.exists_outcome (by decide +kernel)
  obtain ⟨m, st, hout, hm⟩ := hrun
  obtain ⟨hparent, hfields⟩ := Prod.mk.inj hm
  have hrequired : RequiredBy (memo [] ["note"]).propertySets "note" :=
    ⟨memo [] ["note"], by simp [SchemaBody.propertySets], by decide⟩
  exact ⟨m, st, _, hout, hparent, hfields, hrequired, rfl, by decide +kernel⟩

end Resolver

end ApiModel
