import ApiModel.Proofs.Generation.FieldSemantics
import ApiModel.Proofs.Resolution.Unfolding

/-!
# All-ofs that are flattened

An all-of that is neither left to a lone branch nor extends a parent is flattened: its branches are
unfolded to a list of schemas, and the model is put together from them. Either they stand for a
value, and the model is another name for the first of them that says its type, or the model is an
object with the properties that they declare together.

## Main results

* `Merged.form_of_isValue`, `Merged.form_of_not_isValue`: what becomes of merged schemas.
* `Resolver.compose_of_merge_error`, `Resolver.compose_of_mergeable`: what becomes of an all-of whose
  branches cannot be merged, and of one whose branches can.
* `Resolver.flattening_of_compose`: what becomes of an all-of that is flattened.
-/

namespace ApiModel

namespace SchemaBody

variable {s : Schema}

theorem isValue_iff : s.isValue = true ↔ ∃ type, s.mergeKind = some (.value type) := by
  rw [isValue]
  rcases s.mergeKind with _ | _ | type <;> simp

/-- A schema that stands for a value says its type. -/
theorem primaryType_of_isValue (h : s.isValue = true) : s.primaryType.isSome = true := by
  obtain ⟨type, h⟩ := isValue_iff.mp h
  rw [mergeKind] at h
  rcases htype : s.primaryType with _ | t
  · rw [htype] at h
    simp only at h
    split at h <;> cases h
  · rfl

/-- A schema that says its type stands for an object or a value. -/
theorem mergeKind_of_primaryType (h : s.primaryType.isSome = true) :
    s.mergeKind = some .object ∨ s.isValue = true := by
  obtain ⟨type, h⟩ := Option.isSome_iff_exists.mp h
  by_cases hobject : type = .object
  · subst hobject
    exact .inl (by rw [mergeKind, h])
  · exact .inr (isValue_iff.mpr ⟨type, mergeKind_of_value h hobject⟩)

end SchemaBody

/-- Where schemas that can be merged stand for a value, it is that of the first one that says its
type. -/
theorem find?_isValue {schemas : List Schema} (h : ¬Unmergeable schemas)
    (hvalue : ∃ s ∈ schemas, s.isValue = true) :
    schemas.find? SchemaBody.isValue = schemas.find? fun s => s.primaryType.isSome := by
  refine find?_eq_find?_of_forall_mem fun s hs => ?_
  rw [Bool.eq_iff_iff]
  refine ⟨SchemaBody.primaryType_of_isValue, fun htype => ?_⟩
  refine (SchemaBody.mergeKind_of_primaryType htype).resolve_left fun hobject => h (.inr ?_)
  obtain ⟨s', hs', hvalue⟩ := hvalue
  obtain ⟨type, hkind⟩ := SchemaBody.isValue_iff.mp hvalue
  exact ⟨s, hs, s', hs', .object, .value type, hobject, hkind, nofun⟩

/-! ### What merged schemas become -/

namespace Merged

variable {schemas : List Schema}

/-- Schemas that stand for a value become another name for the first of them that says its type. -/
theorem form_of_isValue (h : ¬Unmergeable schemas) (hvalue : ∃ s ∈ schemas, s.isValue = true) :
    ∃ value, schemas.find? (fun s => s.primaryType.isSome) = some value ∧
      (schemas.foldl add {}).form = .synonym (.inline value) := by
  obtain ⟨s, hs, hs'⟩ := hvalue
  obtain ⟨type, hkind⟩ := SchemaBody.isValue_iff.mp hs'
  obtain ⟨value, hfound⟩ : ∃ value, schemas.find? SchemaBody.isValue = some value :=
    Option.isSome_iff_exists.mp (List.find?_isSome.mpr ⟨s, hs, hs'⟩)
  have hmerged : (schemas.foldl add {}).kind = some (.value type) :=
    kind_of_addAll ((addAll_eq_ok_iff "").mpr ⟨h, rfl⟩) (.inr ⟨s, hs, hkind⟩)
  refine ⟨value, ?_, ?_⟩
  · rw [← find?_isValue h ⟨s, hs, hs'⟩, hfound]
  · rw [form, hmerged, value_foldl_add, hfound]
    rfl

/-- Other schemas become an object with what they declare together, and with the first of their
discriminators. -/
theorem form_of_not_isValue (hvalue : ∀ s ∈ schemas, s.isValue = false) :
    (schemas.foldl add {}).form = .object none (schemas.foldl add {}).toProperties
      (schemas.findSome? SchemaBody.discriminator) := by
  have hkind (type : SchemaType) : (schemas.foldl add {}).kind ≠ some (.value type) := by
    rw [kind_foldl_add]
    intro h
    obtain ⟨s, hs, hkind⟩ := List.exists_of_findSome?_eq_some h
    have hs' := hvalue s hs
    rw [SchemaBody.isValue_iff.mpr ⟨type, hkind⟩] at hs'
    cases hs'
  rw [form]
  split
  next type _ hmerged _ => exact absurd hmerged (hkind type)
  next type hmerged _ => exact absurd hmerged (hkind type)
  · rw [discriminator_foldl_add]
    rfl

end Merged

namespace Resolver

variable {r : Resolver} {shape : Shape} {name : Name} {description : Option String}
  {owner location : String} {s : Schema} {schemas : List Schema} {st st' : Promotions}

/-- What the branches lead to cannot be merged, and this is all that happens. -/
theorem compose_of_merge_error (hlone : ¬(s.allOf.length = 1 ∧ s.properties = []))
    (hparent : r.components.parentOf name.text s location = .ok none)
    {e : ResolveError} (hmerge : r.components.merge location s = .error e) :
    (r.compose shape { name, description } owner location s).outcome st = (.error e, st) := by
  rw [compose_eq, Components.composedForm_of_merge hlone hparent, hmerge]
  rfl

/-- What the branches lead to is merged, and the model is that of what it becomes. -/
theorem compose_of_mergeable (hlone : ¬(s.allOf.length = 1 ∧ s.properties = []))
    (hparent : r.components.parentOf name.text s location = .ok none)
    (hschemas : r.components.Unfolds [] (.inline s) schemas) (hmergeable : ¬Unmergeable schemas) :
    r.compose shape { name, description } owner location s =
      r.modelOf shape { name, description } owner location (schemas.foldl Merged.add {}).form := by
  have hmerge : r.components.merge location s = .ok (schemas.foldl Merged.add {}) := by
    rw [Components.merge_of_unfolds hschemas]
    exact (Merged.addAll_eq_ok_iff location).mpr ⟨hmergeable, rfl⟩
  rw [compose_eq, Components.composedForm_of_merge hlone hparent, hmerge]
  rfl

/-- An all-of that is neither left to a lone branch nor extends a parent. Where its branches do not
unfold to schemas, it is an error. Where they do, the schemas are malformed exactly if one of them
is a union or an enum, or two of them stand for different things. Otherwise, if one of them stands
for a value, the model is another name for what the first of them resolves to that says its type;
and if none does, the model is the object with the properties that they declare together, of which
those must be present that one of them requires, and with the first of their discriminators. -/
theorem flattening_of_compose (r : Resolver) (shape : Shape) (name : Name)
    (description : Option String) (owner location : String) (s : Schema)
    (hlone : ¬(s.allOf.length = 1 ∧ s.properties = []))
    (hparent : r.components.parentOf name.text s location = .ok none) (st : Promotions) :
    ((¬∃ schemas, r.components.Unfolds [] (.inline s) schemas) → ∃ e,
      r.components.merge location s = .error e ∧
      (r.compose shape { name, description } owner location s).outcome st = (.error e, st)) ∧
    ∀ schemas, r.components.Unfolds [] (.inline s) schemas →
      (Unmergeable schemas ↔
        ∃ fault, r.components.merge location s = .error (.malformed location fault)) ∧
      (Unmergeable schemas → ∃ fault,
        (r.compose shape { name, description } owner location s).outcome st =
          (.error (.malformed location fault), st)) ∧
      (¬Unmergeable schemas → (∃ t ∈ schemas, t.isValue = true) → ∃ value,
        schemas.find? (fun t => t.primaryType.isSome) = some value ∧
        ∀ m st',
          (r.compose shape { name, description } owner location s).outcome st = (.ok m, st') ↔
          ∃ type, (r.resolveWith shape (.standalone location owner) (.inline value)).outcome st =
              (.ok type, st') ∧
            m = { name, description, shape := .synonym type }) ∧
      (¬Unmergeable schemas → (∀ t ∈ schemas, t.isValue = false) → ∃ properties,
        JoinedFrom schemas (RequiredBy schemas) properties ∧
        ∀ m st',
          (r.compose shape { name, description } owner location s).outcome st = (.ok m, st') ↔
          ∃ fields discriminator,
            (r.fields shape owner location properties).outcome st = (.ok fields, st') ∧
            List.Forall₂ (Field.IsOf r.components r.profile) properties fields ∧
            (schemas.findSome? SchemaBody.discriminator).mapM (Resolver.discriminator []) =
              .ok discriminator ∧
            m = { name, description, fields, discriminator }) := by
  have hfault {schemas : List Schema} (hschemas : r.components.Unfolds [] (.inline s) schemas) :
      Unmergeable schemas ↔
        ∃ fault, r.components.merge location s = .error (.malformed location fault) := by
    rw [Components.merge_of_unfolds hschemas]
    constructor
    · intro hunmergeable
      rcases hmerge : ({} : Merged).addAll location schemas with e | merged
      · obtain ⟨fault, rfl⟩ := Merged.exists_fault_of_addAll hmerge
        exact ⟨fault, rfl⟩
      · exact absurd hunmergeable ((Merged.addAll_eq_ok_iff location).mp hmerge).1
    · rintro ⟨fault, hmerge⟩
      by_contra hmergeable
      rw [(Merged.addAll_eq_ok_iff location).mpr ⟨hmergeable, rfl⟩] at hmerge
      cases hmerge
  refine ⟨fun hnone => ?_, fun schemas hschemas => ⟨hfault hschemas, ?_, ?_, ?_⟩⟩
  · obtain ⟨e, he⟩ := Components.exists_error_of_merge location hnone
    exact ⟨e, he, compose_of_merge_error hlone hparent he⟩
  · intro hunmergeable
    obtain ⟨fault, hmerge⟩ := (hfault hschemas).mp hunmergeable
    exact ⟨fault, compose_of_merge_error hlone hparent hmerge⟩
  · intro hmergeable hvalue
    obtain ⟨value, hfound, hform⟩ := Merged.form_of_isValue hmergeable hvalue
    refine ⟨value, hfound, fun m st' => ?_⟩
    rw [compose_of_mergeable hlone hparent hschemas hmergeable, hform]
    exact outcome_synonym_iff
  · intro hmergeable hvalue
    refine ⟨_, Merged.joinedFrom_toProperties schemas, fun m st' => ?_⟩
    rw [compose_of_mergeable hlone hparent hschemas hmergeable, Merged.form_of_not_isValue hvalue,
      modelOf, outcome_object_iff]
    constructor
    · rintro ⟨fields, discriminator, hfields, hdiscriminator, rfl⟩
      exact ⟨fields, discriminator, hfields, isOf_of_fields hfields, hdiscriminator, rfl⟩
    · rintro ⟨fields, discriminator, hfields, -, hdiscriminator, rfl⟩
      exact ⟨fields, discriminator, hfields, hdiscriminator, rfl⟩

/-- A thing has an id. -/
def thing : Schema where
  type := some (.single .object)
  properties := [("id", .text)]

/-- A thing with one more property. -/
def thingWith (property : String) : Schema where
  allOf := [.ref "#/components/schemas/Thing"]
  properties := [(property, .text)]

/-- An amphibian is a boat and a car, and so a thing in two ways. -/
def amphibian : Schema where
  allOf := [.ref "#/components/schemas/Boat", .ref "#/components/schemas/Car"]
  properties := [("draft", .text)]
  required := ["id", "seats"]

/-- A boat and a car are both things. -/
def vehicles : List (String × SchemaNode) :=
  [("Thing", .inline thing), ("Boat", .inline (thingWith "draft")),
   ("Car", .inline (thingWith "seats"))]

/-- The resolver for the vehicles. -/
def vehicleResolver : Resolver := (Contract.ofSchemas vehicles).resolver .jaxrsSpec {}

/-- The thing is unfolded both for the boat and for the car. -/
theorem unfolds_amphibian : vehicleResolver.components.Unfolds [] (.inline amphibian)
    [thing, thingWith "draft", thing, thingWith "seats", amphibian] := by
  let c := vehicleResolver.components
  have hthing (inside : List String) (houtside : "Thing" ∉ inside) :
      c.UnfoldsAll inside [.ref "#/components/schemas/Thing"] [thing] := by
    have hleaf : c.UnfoldsAll (inside ++ ["Thing"]) thing.allOf [] := .nil
    have hinline : c.Unfolds (inside ++ ["Thing"]) (.inline thing) ([] ++ [thing]) := .inline hleaf
    exact .cons (.ref rfl rfl houtside hinline) .nil
  have hboat : c.Unfolds ["Boat"] (.inline (thingWith "draft")) ([thing] ++ [thingWith "draft"]) :=
    .inline (hthing ["Boat"] (by decide))
  have hcar : c.Unfolds ["Car"] (.inline (thingWith "seats")) ([thing] ++ [thingWith "seats"]) :=
    .inline (hthing ["Car"] (by decide))
  have hbranches : c.UnfoldsAll [] amphibian.allOf
      [thing, thingWith "draft", thing, thingWith "seats"] :=
    .cons (.ref rfl rfl List.not_mem_nil hboat) (.cons (.ref rfl rfl List.not_mem_nil hcar) .nil)
  have hamphibian : c.Unfolds [] (.inline amphibian)
      ([thing, thingWith "draft", thing, thingWith "seats"] ++ [amphibian]) := .inline hbranches
  exact hamphibian

/-- The model of the amphibian has the id of a thing once, and it must be present. -/
theorem flattening_of_amphibian : ∃ properties m st,
    JoinedFrom [thing, thingWith "draft", thing, thingWith "seats", amphibian]
      (RequiredBy [thing, thingWith "draft", thing, thingWith "seats", amphibian]) properties ∧
    (properties.map fun p => (p.name, p.required)) =
      [("id", true), ("draft", false), ("seats", true)] ∧
    (vehicleResolver.compose vehicleResolver.shape { name := Name.ofText "Amphibian" } "Amphibian"
      "#/components/schemas/Amphibian" amphibian).outcome {} = (.ok m, st) ∧
    List.Forall₂ (Field.IsOf vehicleResolver.components .jaxrsSpec) properties m.fields := by
  let schemas := [thing, thingWith "draft", thing, thingWith "seats", amphibian]
  have hmergeable : ¬Unmergeable schemas :=
    ((Merged.addAll_eq_ok_iff "").mp rfl).1
  obtain ⟨-, hflattening⟩ := flattening_of_compose vehicleResolver vehicleResolver.shape
    (Name.ofText "Amphibian") none "Amphibian" "#/components/schemas/Amphibian" amphibian
    (by decide) rfl {}
  obtain ⟨-, -, -, hobject⟩ := hflattening schemas unfolds_amphibian
  obtain ⟨properties, hjoined, hiff⟩ := hobject hmergeable (by decide +kernel)
  obtain rfl := hjoined.eq_of_joinedFrom (Merged.joinedFrom_toProperties schemas)
  have hrun : ∃ fields st, (vehicleResolver.fields vehicleResolver.shape "Amphibian"
      "#/components/schemas/Amphibian" (schemas.foldl Merged.add {}).toProperties).outcome {} =
        (.ok fields, st) ∧ fields.map Field.property = ["id", "draft", "seats"] :=
    Resolving.exists_outcome (by decide +kernel)
  obtain ⟨fields, st, hfields, -⟩ := hrun
  have hsaid := isOf_of_fields hfields
  exact ⟨_, _, st, hjoined, by decide +kernel,
    (hiff _ st).mpr ⟨fields, none, hfields, hsaid, rfl, rfl⟩, hsaid⟩

end Resolver

end ApiModel
