import ApiModel.Proofs.Generation.Cycles
import ApiModel.Proofs.Resolution.Unmapped

/-!
# Types that the table of a profile covers

A type is covered when the table has a row for any format of it. Where the primitive types are
covered, generating finds a row for every primitive. But a schema may list `array` or `object`
beside other types, and then these are looked up in the table as well, though they have no row where
they stand alone. So generating may still report a type without a row, unless the table covers these
two, or no schema lists them.

## Main definitions

* `Profile.Covers`: the table of a profile has a row for any format of a type.

## Main results

* `listsType_of_generate`: where a type without a row comes from.
* `unmapped_of_generate`: when generating never reports a type without a row.
* `unmapped_listed_array`: a contract for which it does.
-/

namespace ApiModel

namespace Profile

variable {p : Profile} {type : SchemaType}

/-- The table of a profile has a row for any format of a type. -/
def Covers (p : Profile) (type : SchemaType) : Prop :=
  ∃ row ∈ p.rows, row.type = type ∧ row.format = some "*"

instance (p : Profile) (type : SchemaType) : Decidable (p.Covers type) :=
  inferInstanceAs (Decidable (∃ row ∈ p.rows, row.type = type ∧ row.format = some "*"))

/-- Every format of a type that is covered is found. -/
theorem Covers.lookup_ne_none (h : p.Covers type) (format : Option String) :
    p.lookup type format ≠ none := by
  obtain ⟨row, hrow, htype, hformat⟩ := h
  intro hnone
  rw [lookup, Option.map_eq_none_iff, Option.or_eq_none_iff, List.find?_eq_none,
    List.find?_eq_none] at hnone
  exact hnone.2 row hrow (by simp [htype, hformat])

/-- Some format of a type that is not covered is not found. -/
theorem exists_lookup_eq_none (h : ¬p.Covers type) : ∃ format : String,
    p.lookup type (some format) = none := by
  let taken : Allocator := { taken := p.rows.filterMap TypeRow.format }
  refine ⟨taken.grant "format", ?_⟩
  rw [lookup, Option.map_eq_none_iff, Option.or_eq_none_iff, List.find?_eq_none,
    List.find?_eq_none]
  constructor <;> intro row hrow hfound <;>
    simp only [Bool.and_eq_true, decide_eq_true_eq, beq_iff_eq] at hfound
  · exact taken.grant_notMem "format" (List.mem_filterMap.mpr ⟨row, hrow, hfound.2⟩)
  · exact h ⟨row, hrow, hfound⟩

end Profile

section Output

variable {c : Contract} {p : Profile} {flags : Flags}

/-- A type without a row is a primitive type, or one that a schema of the contract lists beside
others. -/
theorem listsType_of_generate {location platform : String} {type : SchemaType}
    {format : Option String}
    (h : generate c p flags = .error (.unmapped location platform type format)) :
    p.lookup type format = none ∧ (type.isPrimitive = true ∨
      ∃ s, c.Stands (.inline s) ∧ s.format = format ∧ s.ListsType type) := by
  let F (e : ResolveError) : Prop := ∀ location platform type format,
    e = .unmapped location platform type format → p.lookup type format = none ∧
      (type.isPrimitive = true ∨ ∃ s, c.Stands (.inline s) ∧ s.format = format ∧ s.ListsType type)
  have hlacks : (c.resolver p flags).Lacks c.Stands F := by
    refine ⟨c.closed_stands, ?_, ?_, ?_⟩
    · rintro e he location platform type format rfl
      cases he
    · rintro _ type format hnone hprimitive _ _ _ _ ⟨⟩
      exact ⟨hnone, .inl hprimitive⟩
    · rintro _ s type hs hlists hnone _ _ _ _ ⟨⟩
      exact ⟨hnone, .inr ⟨s, hs, rfl, hlists⟩⟩
  suffices hF : F (.unmapped location platform type format) from hF _ _ _ _ rfl
  rcases exists_of_generate_error h with ⟨name, node, hmem, hrun⟩ | ⟨endpoint, hmem, hrun⟩
  · exact Resolver.failsOnly_run (hlacks.component name (c.closed_stands.named hmem)) _ hrun
  · exact Resolver.failsOnly_run (hlacks.operation fun node hnode => .operation hmem hnode) _ hrun

end Output

/-! ### A type that is listed -/

/-- A schema that lists a type twice. -/
def listing (type : SchemaType) (format : String) : Schema where
  type := some (.several [type, type])
  format := some format

theorem form_listing {type : SchemaType} (h : type ≠ .null) (format : String) :
    (listing type format).form = .alternatives [type, type] := by
  cases type with
  | null => exact absurd rfl h
  | _ => rfl

/-- Where a type of a format is without a row, a contract with a schema that lists it is not
generated. -/
theorem generate_listing {p : Profile} {type : SchemaType} {format : String} (htype : type ≠ .null)
    (hnone : p.lookup type (some format) = none) (flags : Flags) :
    generate (.ofSchemas [("Listing", .inline (listing type format))]) p flags =
      .error (.unmapped "#/components/schemas/Listing" p.id type (some format)) := by
  let r := (Contract.ofSchemas [("Listing", .inline (listing type format))]).resolver p flags
  have hform := form_listing htype format
  have hshape (usage : Usage) (st : Promotions) :
      (r.shape usage (.inline (listing type format))).outcome st =
        (.error (.unmapped usage.location p.id type (some format)), st) := by
    rw [Resolver.shape, Resolver.shapeByWalk, Resolving.outcome_bind, Resolving.outcome_lift,
      Components.walk_inline, hform]
    dsimp only
    rw [Resolving.outcome_bind, Resolver.leafType, hform]
    dsimp only
    rw [Resolving.outcome_bind, Resolving.outcome_lift, List.mapM_cons]
    have hrow : r.profile.lookup type (listing type format).format = none := hnone
    have hlookup : (r.profile.primitive type (listing type format).format usage.location) =
        .error (.unmapped usage.location p.id type (some format)) := by
      rw [Profile.primitive, hrow]
      rfl
    rw [hlookup]
    rfl
  have hout (st : Promotions) :
      (r.component "Listing" (.inline (listing type format))).outcome st =
        (.error (.unmapped "#/components/schemas/Listing" p.id type (some format)), st) := by
    have hsynonym : r.components.componentForm "Listing" (.inline (listing type format)) =
        .ok (.synonym (.inline (listing type format))) := rfl
    rw [r.component_eq, hsynonym, Resolving.outcome_bind, Resolving.outcome_lift]
    dsimp only
    rw [Resolver.modelOf, Resolver.synonym, Resolving.outcome_bind, Resolver.resolveWith,
      Resolving.outcome_bind, hshape]
    rfl
  have hbuilt : r.builtModels =
      .error (.unmapped "#/components/schemas/Listing" p.id type (some format)) := by
    change List.mapM (fun e : String × SchemaNode => r.run (r.component e.1 e.2))
      [("Listing", .inline (listing type format))] = _
    rw [List.mapM_cons, Resolver.run_eq_error (hout _)]
    rfl
  rw [generate]
  change r.builtModels >>= _ = _
  rw [hbuilt]
  rfl

theorem mem_of_isPrimitive {type : SchemaType} (h : type.isPrimitive = true) :
    type ∈ [SchemaType.string, .number, .integer, .boolean] := by
  cases type with
  | array | object | null => cases h
  | _ => simp

/-- Where the table of a profile covers the primitive types, generating reports a type without a row
only if it is `array` or `object`, and some schema of the contract lists it beside other types. So
generating never reports one, whatever the contract, if and only if the table covers these two
types as well. -/
theorem unmapped_of_generate (p : Profile)
    (hp : ∀ type ∈ [SchemaType.string, .number, .integer, .boolean], p.Covers type) :
    (∀ c flags location platform type format,
      generate c p flags = .error (.unmapped location platform type format) →
        (type = .array ∨ type = .object) ∧ p.lookup type format = none ∧
          ∃ s, c.Stands (.inline s) ∧ s.format = format ∧ s.ListsType type) ∧
    ((∀ c flags location platform type format,
      generate c p flags ≠ .error (.unmapped location platform type format)) ↔
        p.Covers .array ∧ p.Covers .object) := by
  have hcontainer {c : Contract} {flags : Flags} {location platform : String} {type : SchemaType}
      {format : Option String}
      (h : generate c p flags = .error (.unmapped location platform type format)) :
      (type = .array ∨ type = .object) ∧ p.lookup type format = none ∧
        ∃ s, c.Stands (.inline s) ∧ s.format = format ∧ s.ListsType type := by
    obtain ⟨hnone, hcase⟩ := listsType_of_generate h
    have hother : ¬p.Covers type := fun hcovers => hcovers.lookup_ne_none format hnone
    have hlisted : ∃ s, c.Stands (.inline s) ∧ s.format = format ∧ s.ListsType type :=
      hcase.resolve_left fun hprimitive => hother (hp type (mem_of_isPrimitive hprimitive))
    refine ⟨?_, hnone, hlisted⟩
    obtain ⟨s, -, -, hlists⟩ := hlisted
    cases type with
    | array => exact .inl rfl
    | object => exact .inr rfl
    | null => exact absurd rfl hlists.ne_null
    | _ => exact absurd (hp _ (by simp)) hother
  refine ⟨fun _ _ _ _ _ _ => hcontainer, fun hnever => ?_, ?_⟩
  · have hcovers (type : SchemaType) (htype : type ≠ .null) : p.Covers type := by
      by_contra hother
      obtain ⟨format, hnone⟩ := Profile.exists_lookup_eq_none hother
      exact hnever _ {} _ _ _ _ (generate_listing htype hnone {})
    exact ⟨hcovers .array nofun, hcovers .object nofun⟩
  · rintro ⟨harray, hobject⟩ c flags location platform type format h
    obtain ⟨rfl | rfl, hnone, -⟩ := hcontainer h
    · exact harray.lookup_ne_none format hnone
    · exact hobject.lookup_ne_none format hnone

/-- A profile that covers all primitive types, but neither arrays nor objects. -/
def Profile.covering : Profile :=
  { Profile.jaxrsSpec with
    rows := Profile.jaxrsSpec.rows ++
      [⟨.boolean, some "*", { name := "boolean", primitive := true, boxed := some "Boolean" }⟩] }

/-- The profile covers the primitive types, and this is not enough. -/
theorem unmapped_of_covering :
    (∀ type ∈ [SchemaType.string, .number, .integer, .boolean], Profile.covering.Covers type) ∧
    ¬∀ c flags location platform type format,
      generate c .covering flags ≠ .error (.unmapped location platform type format) := by
  have hp : ∀ type ∈ [SchemaType.string, .number, .integer, .boolean],
      Profile.covering.Covers type := by decide +kernel
  have harray : ¬Profile.covering.Covers .array := by decide +kernel
  exact ⟨hp, fun hnever => harray ((unmapped_of_generate .covering hp).2.mp hnever).1⟩

/-- An object that holds a text or an array of texts. -/
def holder : List (String × SchemaNode) :=
  [("Holder", .objectWith "value"
    (.inline { type := some (.several [.string, .array]), items := some .text }))]

/-- The array in the list is looked up, and there is no row for it, though an array that stands
alone needs none. -/
theorem unmapped_listed_array :
    (∀ type ∈ [SchemaType.string, .number, .integer, .boolean], Profile.covering.Covers type) ∧
    generate (.ofSchemas holder) .covering {} = .error
      (.unmapped "#/components/schemas/Holder/properties/value" "jaxrs_spec" .array none) := by
  refine ⟨by decide +kernel, ?_⟩
  have hrun : (match generate (.ofSchemas holder) .covering {} with
      | .error (.unmapped location platform type format) => some (location, platform, type, format)
      | _ => none) =
        some ("#/components/schemas/Holder/properties/value", "jaxrs_spec", .array, none) := by
    decide +kernel
  split at hrun
  next location platform type format h =>
    simp only [Option.some.injEq, Prod.mk.injEq] at hrun
    obtain ⟨rfl, rfl, rfl, rfl⟩ := hrun
    exact h
  next => cases hrun

end ApiModel
