import ApiModel.Profile.Builtin
import ApiModel.Proofs.Generation.FieldSemantics
import ApiModel.Proofs.Resolution.EnumMembers
import ApiModel.Proofs.Resolution.Relocating

/-!
# Defaults that are members of enums

The default of an enum is one of its members, written with the type of the enum. An enum where it is
declared finds the member among those that it has; a pointer to it finds it among the values of the
schema to which it points. Both find the same one.

The values are not there where a schema only leads to the enum, though: in an all-of of one branch
the default stands beside the pointer, and in an array beside the items. There the default of an
enum behind a pointer is written like any other scalar, whether it is a value of the enum or not.
The items of an array that are an enum themselves are written as members.

## Main definitions

* `Profile.memberDefault`: the default that is the member of an enum.
* `Profile.ListsMembers`: a default of an array lists members of an enum.

## Main results

* `Resolver.outcome_of_walk`: resolving a schema whose leaf holds no further schemas.
* `Resolver.default_of_enum`: enums where they are declared, and behind a pointer.
* `Resolver.default_of_lone_enum`: a pointer to an enum in an all-of.
* `Resolver.default_of_enum_array`: arrays of enums.
-/

namespace ApiModel

/-! ### Walking to an enum -/

namespace SchemaBody

variable {s : Schema}

theorem form_of_isEnum (h : s.isEnum = true) : s.form = .enum := if_pos h

theorem isModel_of_isEnum (h : s.isEnum = true) : s.isModel = true := by
  rw [isModel, h, Bool.or_true]

theorem isEnum_of_form {form : SchemaForm} (h : s.form = form) (hother : form ≠ .enum) :
    s.isEnum = false := by
  by_contra henum
  exact hother (h.symm.trans (form_of_isEnum (by simpa using henum)))

end SchemaBody

namespace Components

variable {c : Components} {chain : Chain} {location pointer name : String} {s : Schema}

theorem walk_of_isEnum (h : s.isEnum = true) :
    c.walk chain location (.inline s) = .ok { location, leaf := .schema s } := by
  rw [walk_inline, SchemaBody.form_of_isEnum h]

variable (hname : componentName "schemas" pointer = .ok name)
  (hfound : c.schemas.lookup name = some (.inline s))

include hname hfound

theorem walk_pointer_of_isEnum (h : s.isEnum = true) : c.walk chain location (.ref pointer) =
    .ok { location, leaf := .model (Name.ofText name).pascalCase } := by
  rw [walk_ref, hname]
  simp only [hfound, SchemaNode.isModel_inline, SchemaBody.isModel_of_isEnum h, if_true]

theorem target_pointer : c.target (.ref pointer) = .ok s :=
  follow_eq_ok_iff.mpr ⟨name, 0, hname, .content hfound rfl⟩

end Components

/-! ### What becomes of a shape -/

namespace Resolver

variable {r : Resolver} {usage : Usage} {node : SchemaNode} {st : Promotions} {target s : Schema}
  {shape : ResolvedType} {value : Json.Value}

/-- What is no primitive keeps its name where it is used. -/
theorem name_finish (h : shape.target.primitive = false) :
    (r.finish usage target shape).name = shape.name := by
  rw [finish]
  dsimp only
  split
  · rw [ResolvedType.boxed_eq_self (by exact h)]
  · rfl

theorem defaultValue_finish_of_declared (h : target.defaultValue = some value) :
    (r.finish usage target shape).defaultValue =
      r.profile.declaredDefault value target (r.finish usage target shape) := by
  rw [defaultValue_finish, Profile.resolveDefault, h]

/-- A schema whose leaf holds no further schemas is resolved by a check, and promotes nothing. -/
theorem outcome_of_walk {w : Walk} {check : Except ResolveError ResolvedType}
    (hwalk : r.components.walk .empty usage.location node = .ok w)
    (htarget : r.components.target node = .ok target)
    (hleaf : ∀ shape, r.leafType shape { usage with location := w.location } w.leaf = liftM check) :
    (r.resolve usage node).outcome st =
      (check.map fun t => r.finish usage target (w.wrap r.profile t), st) := by
  rw [resolve, resolveWith, Resolver.shape, shapeByWalk, hwalk, htarget]
  simp only [Resolving.lift_ok_bind, hleaf]
  rcases check with e | t <;> rfl

theorem leafType_of_isEnum (h : s.isEnum = true) (shape : Shape) :
    r.leafType shape usage (.schema s) =
      liftM ((r.profile.enumType r.flags s usage.location).map fun e =>
        ResolvedType.ofTarget (.named usage.enumName) (.enum e)) := by
  rw [leafType, SchemaBody.form_of_isEnum h]
  exact (Resolving.lift_map _ _).symm

theorem leafType_model (model : String) (shape : Shape) :
    r.leafType shape usage (.model model) = liftM (.ok (.ofModel model) :
      Except ResolveError ResolvedType) := rfl

end Resolver

/-! ### Declared defaults -/

namespace Profile

variable {p : Profile} {s : Schema} {type element : ResolvedType} {value : Json.Value}
  {values : List Json.Value} {e : EnumType} {model template : String}

theorem declaredDefault_enum (h : type.kind = .enum e) (hnull : value.isNull = false) :
    p.declaredDefault value s type = (p.memberLiteral value type.name e).map (declare · []) := by
  rw [declaredDefault, hnull, h]
  rfl

/-- The default of a pointer to an enum is a member by the values of the schema. -/
theorem declaredDefault_model_of_isEnum (h : type.kind = .model model)
    (hnull : value.isNull = false) (hs : s.isEnum = true) :
    p.declaredDefault value s type =
      (p.memberText? model s.enumValues value).map (declare · []) := by
  rw [declaredDefault, hnull, h, memberText?, identifierOf?]
  simp only [hs, Bool.false_eq_true, if_false, if_true, Option.map_map]
  rfl

/-- The default of a schema without values that leads to a model is any scalar. -/
theorem declaredDefault_model (h : type.kind = .model model) (hnull : value.isNull = false)
    (hs : s.isEnum = false) : p.declaredDefault value s type =
      (p.scalarLiteral value (some type.name)).map (declare · []) := by
  rw [declaredDefault, hnull, h]
  simp only [hs, Bool.false_eq_true, if_false]

/-- The default that is the member of an enum which stands for a value, if there is one. -/
def memberDefault (p : Profile) (typeName : String) (enumValues : List Json.Value)
    (value : Json.Value) : Option DefaultValue :=
  (p.memberText? typeName enumValues value).map (declare · [])

/-- The default of an array with given elements. -/
def listed (p : Profile) (template : String) (elements : List String) : DefaultValue :=
  declare (fill template (", ".intercalate elements)) p.array.literalImports

/-- A default of an array lists the members of an enum that stand for given values. Each element is
written as its member, and there is no default if a value stands for none. -/
structure ListsMembers (p : Profile) (template typeName : String)
    (enumValues values : List Json.Value) (default : Option DefaultValue) : Prop where
  listed : ∀ texts, values.map (p.memberText? typeName enumValues) = texts.map some →
    default = some (p.listed template texts)
  dropped : (∃ value ∈ values, p.memberText? typeName enumValues value = none) → default = none

theorem listsMembers_iff {typeName : String} {enumValues : List Json.Value}
    {default : Option DefaultValue} :
    p.ListsMembers template typeName enumValues values default ↔
      default = (values.mapM (p.memberText? typeName enumValues)).map (p.listed template) := by
  rcases htexts : values.mapM (p.memberText? typeName enumValues) with _ | texts
  · have hnone := mapM_eq_none_iff.mp htexts
    refine ⟨fun h => h.dropped hnone, fun h => ⟨fun texts hmap => ?_, fun _ => h⟩⟩
    cases htexts.symm.trans (mapM_eq_some_iff.mpr hmap)
  · refine ⟨fun h => h.listed texts (mapM_eq_some_iff.mp htexts), fun h => ⟨?_, fun hnone => ?_⟩⟩
    · intro texts' hmap
      obtain rfl := Option.some.inj (htexts.symm.trans (mapM_eq_some_iff.mpr hmap))
      exact h
    · cases htexts.symm.trans (mapM_eq_none_iff.mpr hnone)

theorem elementLiteral_enum (h : element.kind = .enum e) :
    p.elementLiteral element = fun value => p.memberLiteral value element.name e := by
  funext value
  rw [elementLiteral, h]

theorem elementLiteral_model (h : element.kind = .model model) :
    p.elementLiteral element = fun value => p.scalarLiteral value (some element.name) := by
  funext value
  rw [elementLiteral, h]

/-- The elements of an array are written one by one, and there is no default without all. -/
theorem declaredArray_eq (htemplate : p.array.literalTemplate = some template)
    (hne : values ≠ []) : p.declaredArray element (.array values) =
      (values.mapM (p.elementLiteral element)).map (p.listed template) := by
  obtain ⟨value, rest, rfl⟩ := List.exists_cons_of_ne_nil hne
  rw [declaredArray, htemplate]
  · rcases (value :: rest).mapM (p.elementLiteral element) with _ | elements <;> rfl
  · exact nofun

end Profile

/-! ### Enums where they are declared, and behind a pointer -/

namespace Resolver

variable {r : Resolver} {s : Schema} {value : Json.Value}

/-- An enum that is declared where it is used is checked there. -/
theorem outcome_of_enum (usage : Usage) (st : Promotions) (henum : s.isEnum = true) :
    (r.resolve usage (.inline s)).outcome st =
      ((r.profile.enumType r.flags s usage.location).map fun e =>
        r.finish usage s (.ofTarget (.named usage.enumName) (.enum e)), st) := by
  rw [outcome_of_walk (Components.walk_of_isEnum henum) rfl (leafType_of_isEnum henum)]
  rcases r.profile.enumType r.flags s usage.location with e | e <;> rfl

/-- A pointer to an enum is a reference to its model. -/
theorem outcome_of_enum_pointer (usage : Usage) (st : Promotions) {pointer name : String}
    (hname : componentName "schemas" pointer = .ok name)
    (hfound : r.components.schemas.lookup name = some (.inline s)) (henum : s.isEnum = true) :
    (r.resolve usage (.ref pointer)).outcome st =
      (.ok (r.finish usage s (.ofModel (Name.ofText name).pascalCase)), st) :=
  outcome_of_walk (Components.walk_pointer_of_isEnum hname hfound henum)
    (Components.target_pointer hname hfound) (leafType_model _)

/-- The members of an enum are its values besides null in order, and a fallback member behind them
exactly if the flags ask for one. A default besides null stands for the first member that equals it,
the fallback apart, and for none if it is not among the values. It is written as this member where
the enum is declared, with the name that it has there, and behind a pointer to the enum, with the
name of the model. -/
theorem default_of_enum (r : Resolver) {location : String} {e : EnumType} (henum : s.isEnum = true)
    (he : r.profile.enumType r.flags s location = .ok e) :
    (∃ own fallback, e.members = own ++ fallback ∧
      own.map EnumMember.value = (s.enumValues.filter fun v => !v.isNull) ∧
      (∀ m ∈ own, m.fallback = false) ∧ (∀ m ∈ fallback, m.fallback = true) ∧
      fallback.length = if r.flags.enumUnknownDefaultCase then 1 else 0) ∧
    ∀ value, s.defaultValue = some value → value.isNull = false →
      ((e.member? value).isSome ↔ ∃ v ∈ s.enumValues, (v == value) = true) ∧
      (∀ usage st, ∃ t, (r.resolve usage (.inline s)).outcome st = (.ok t, st) ∧
        t.name = usage.enumName ∧ t.defaultValue = (e.member? value).map fun m =>
          Profile.declare (r.profile.enumReference usage.enumName m.identifier) []) ∧
      ∀ usage st pointer name, componentName "schemas" pointer = .ok name →
        r.components.schemas.lookup name = some (.inline s) →
        ∃ t, (r.resolve usage (.ref pointer)).outcome st = (.ok t, st) ∧
          t.name = (Name.ofText name).pascalCase ∧
          t.defaultValue = (e.member? value).map fun m => Profile.declare
            (r.profile.enumReference (Name.ofText name).pascalCase m.identifier) [] := by
  refine ⟨?_, fun value hdefault hnull => ⟨?_, fun usage st => ?_, ?_⟩⟩
  · obtain ⟨own, hentries, hown, hmembers⟩ := Profile.exists_members_of_enumType he
    refine ⟨own, _, hmembers, ?_, hown, fun m hm => ?_, ?_⟩
    · rw [← Profile.map_fst_enumIdentifiers (p := r.profile), ← hentries, List.map_map]
      rfl
    · split at hm
      · rw [List.mem_singleton.mp hm]
        rfl
      · cases hm
    · split <;> rfl
  · rw [← Profile.isSome_identifierOf?_iff hnull (p := r.profile),
      ← Profile.map_identifier_member? he, Option.isSome_map]
  · have he' : r.profile.enumType r.flags s usage.location = .ok e :=
      ((r.profile.enumType_alike location usage.location r.flags s).ok_iff e).mp he
    refine ⟨r.finish usage s (.ofTarget (.named usage.enumName) (.enum e)), ?_, name_finish rfl, ?_⟩
    · rw [outcome_of_enum usage st henum, he']
      rfl
    · rw [defaultValue_finish_of_declared hdefault,
        Profile.declaredDefault_enum (r.kind_finish _ _ _) hnull, name_finish rfl]
      exact Option.map_map ..
  · intro usage st pointer name hname hfound
    refine ⟨_, outcome_of_enum_pointer usage st hname hfound henum, name_finish rfl, ?_⟩
    rw [defaultValue_finish_of_declared hdefault,
      Profile.declaredDefault_model_of_isEnum (r.kind_finish _ _ _) hnull henum,
      Profile.memberText?, ← Profile.map_identifier_member? he, Option.map_map, Option.map_map]
    rfl

/-- An enum two values of which ask for one identifier. The second of them is its default. -/
def shade : Schema where
  type := some (.single .string)
  enumValues := [.text "a-b", .null, .text "a_b", .number (.int 1)]
  defaultValue := some (.text "a_b")

/-- Where the enum is declared and behind a pointer to it, the default is the member with a
number. -/
theorem default_of_shade :
    let r : Resolver := {
      components := { schemas := [("shade", .inline shade)] }
      profile := .jaxrsSpec
      flags := { enumUnknownDefaultCase := true } }
    let usage : Usage := .standalone "#" "Inline"
    ∃ e, r.profile.enumType r.flags shade "#" = .ok e ∧
      e.members.map EnumMember.identifier =
        ["A_B", "A_B2", "NUMBER_1", "UNKNOWN_DEFAULT_OPEN_API"] ∧
      (∃ t, (r.resolve usage (.inline shade)).outcome {} = (.ok t, {}) ∧
        t.defaultValue = some (Profile.declare "Inline.A_B2" [])) ∧
      ∃ t, (r.resolve usage (.ref (pointerTo "schemas" "shade"))).outcome {} = (.ok t, {}) ∧
        t.defaultValue = some (Profile.declare "Shade.A_B2" []) := by
  intro r usage
  obtain ⟨e, _, hout, he⟩ : ∃ e st,
      Resolving.outcome (liftM (r.profile.enumType r.flags shade "#")) {} = (.ok e, st) ∧
        (e.members.map EnumMember.identifier,
          (e.member? (.text "a_b")).map EnumMember.identifier) =
        (["A_B", "A_B2", "NUMBER_1", "UNKNOWN_DEFAULT_OPEN_API"], some "A_B2") :=
    Resolving.exists_outcome (by decide +kernel)
  obtain ⟨hmembers, hmember⟩ := Prod.mk.inj he
  obtain ⟨m, hm, hidentifier⟩ := Option.map_eq_some_iff.mp hmember
  have hchecked : r.profile.enumType r.flags shade "#" = .ok e := (Prod.mk.inj hout).1
  obtain ⟨-, hdefault⟩ := r.default_of_enum rfl hchecked
  obtain ⟨-, hinline, hpointer⟩ := hdefault (.text "a_b") rfl rfl
  obtain ⟨t, ht, -, hvalue⟩ := hinline usage {}
  obtain ⟨t', ht', -, hvalue'⟩ := hpointer usage {} (pointerTo "schemas" "shade") "shade" rfl rfl
  rw [hm, Option.map_some, hidentifier] at hvalue hvalue'
  exact ⟨e, hchecked, hmembers, ⟨t, ht, hvalue.trans (by decide +kernel)⟩,
    t', ht', hvalue'.trans (by decide +kernel)⟩

/-! ### A pointer to an enum in an all-of -/

/-- A default beside a lone pointer to an enum is written like any other scalar. It is the member
that stands for it only if the two read alike. -/
theorem default_of_lone_enum (r : Resolver) (usage : Usage) (st : Promotions) {e : Schema}
    {pointer name : String} (hform : s.form = .lone (.ref pointer))
    (hname : componentName "schemas" pointer = .ok name)
    (hfound : r.components.schemas.lookup name = some (.inline e)) (henum : e.isEnum = true)
    (hdefault : s.defaultValue = some value) (hscalar : value.isScalar = true) :
    ∃ t literal, (r.resolve usage (.inline s)).outcome st = (.ok t, st) ∧
      r.profile.scalarLiteral value (some (Name.ofText name).pascalCase) = some literal ∧
      t.defaultValue = some (Profile.declare literal []) ∧
      (t.defaultValue =
          r.profile.memberDefault (Name.ofText name).pascalCase e.enumValues value ↔
        r.profile.memberText? (Name.ofText name).pascalCase e.enumValues value = some literal) := by
  have hwalk : r.components.walk .empty usage.location (.inline s) =
      .ok { location := usage.location, leaf := .model (Name.ofText name).pascalCase } := by
    rw [Components.walk_inline, hform]
    exact Components.walk_pointer_of_isEnum hname hfound henum
  obtain ⟨literal, hliteral⟩ :=
    r.profile.exists_scalarLiteral hscalar (some (Name.ofText name).pascalCase)
  have hvalue : (r.finish usage s (.ofModel (Name.ofText name).pascalCase)).defaultValue =
      some (Profile.declare literal []) := by
    rw [defaultValue_finish_of_declared hdefault,
      Profile.declaredDefault_model (r.kind_finish _ _ _) (Json.Value.isNull_of_isScalar hscalar)
        (SchemaBody.isEnum_of_form hform nofun), name_finish rfl]
    exact congrArg (Option.map _) hliteral
  have hout : (r.resolve usage (.inline s)).outcome st =
      (.ok (r.finish usage s (.ofModel (Name.ofText name).pascalCase)), st) :=
    outcome_of_walk hwalk rfl (leafType_model _)
  refine ⟨_, literal, hout, hliteral, hvalue, ?_⟩
  rw [hvalue, Profile.memberDefault]
  constructor
  · intro h
    obtain ⟨text, htext, heq⟩ := Option.map_eq_some_iff.mp h.symm
    obtain rfl : text = literal := congrArg DefaultValue.literal heq
    exact htext
  · intro h
    rw [h]
    rfl

/-- An enum of two texts. -/
def color : Schema where
  type := some (.single .string)
  enumValues := [.text "red", .text "green"]

/-- An all-of of a pointer to the enum, with a default. -/
def colorOrRed : Schema where
  allOf := [.ref (pointerTo "schemas" "Color")]
  defaultValue := some (.text "red")

/-- Where a member is written as its value, the default is this member. -/
theorem default_of_colorOrRed :
    let r : Resolver := {
      components := { schemas := [("Color", .inline color)] }
      profile := { Profile.jaxrsSpec with
        literals := { Profile.jaxrsSpec.literals with enumMember := "\"\x7bmember\x7d\"" }
        naming := { Profile.jaxrsSpec.naming with memberCase := .camel } }
      flags := {} }
    ∃ t, (r.resolve (.standalone "#" "Item") (.inline colorOrRed)).outcome {} = (.ok t, {}) ∧
      t.defaultValue = some (Profile.declare "\"red\"" []) ∧
      t.defaultValue = r.profile.memberDefault "Color" color.enumValues (.text "red") := by
  intro r
  have hmodel : (Name.ofText "Color").pascalCase = "Color" := by decide +kernel
  have hname : componentName "schemas" (pointerTo "schemas" "Color") = .ok "Color" := rfl
  obtain ⟨t, literal, hout, hliteral, hvalue, hiff⟩ :=
    r.default_of_lone_enum (.standalone "#" "Item") {} (s := colorOrRed) rfl hname rfl rfl rfl rfl
  rw [hmodel] at hliteral hiff
  obtain rfl : "\"red\"" = literal := Option.some.inj hliteral
  exact ⟨t, hout, hvalue, hiff.mpr (by decide +kernel)⟩

/-- The default of the all-of is a text, although the enum has a member for it. -/
theorem lone_enum_as_text :
    let r : Resolver := {
      components := { schemas := [("Color", .inline color)] }
      profile := .jaxrsSpec
      flags := {} }
    r.profile.memberDefault "Color" color.enumValues (.text "red") =
        some (Profile.declare "Color.RED" []) ∧
      ∃ t st, (r.resolve (.standalone "#" "Item") (.inline colorOrRed)).outcome {} = (.ok t, st) ∧
        t.defaultValue = some (Profile.declare "\"red\"" []) :=
  ⟨by decide +kernel, Resolving.exists_outcome (by decide +kernel)⟩

/-! ### Arrays of enums -/

/-- The array of an element whose type is that of a check. -/
theorem outcome_of_array (usage : Usage) (st : Promotions) {items : SchemaNode} {item : Schema}
    {leaf : Leaf} {check : Except ResolveError ResolvedType} (hform : s.form = .array (some items))
    (hwalk : r.components.walk .empty (usage.location ++ "/items") items =
      .ok { location := usage.location ++ "/items", leaf })
    (htarget : r.components.target items = .ok item)
    (hleaf : ∀ shape, r.leafType shape { usage with location := usage.location ++ "/items" } leaf =
      liftM check) :
    (r.resolve usage (.inline s)).outcome st = (check.map fun t => r.finish usage s
      (r.profile.array.of ((ElementRule.ofTarget item).apply t) .array), st) := by
  refine outcome_of_walk (w := ⟨[.array (.ofTarget item)], usage.location ++ "/items", leaf⟩) ?_ rfl
    hleaf
  rw [Components.walk_inline, hform]
  simp only [hwalk, htarget]
  rfl

/-- A default of an array is written element by element. -/
theorem defaultValue_finish_array (r : Resolver) (usage : Usage) (element : ResolvedType)
    {values : List Json.Value} {template : String}
    (hdefault : s.defaultValue = some (.array values)) (hne : values ≠ [])
    (htemplate : r.profile.array.literalTemplate = some template) :
    (r.finish usage s (r.profile.array.of element .array)).defaultValue =
      (values.mapM (r.profile.elementLiteral element)).map (r.profile.listed template) := by
  rw [defaultValue_finish_of_declared hdefault, ← Profile.declaredArray_eq htemplate hne,
    Profile.declaredDefault, kind_finish]
  rfl

section EnumItems

variable (usage : Usage) (st : Promotions) {item : Schema} {values : List Json.Value}
  {template : String} (hdefault : s.defaultValue = some (.array values))
  (hne : values ≠ []) (htemplate : r.profile.array.literalTemplate = some template)
  (henum : item.isEnum = true)

include hdefault hne htemplate henum

/-- The elements are members where the items are the enum itself. -/
theorem listsMembers_of_enum_items (hform : s.form = .array (some (.inline item))) :
    (∃ e, r.profile.enumType r.flags item (usage.location ++ "/items") = .error e ∧
      (r.resolve usage (.inline s)).outcome st = (.error e, st)) ∨
    ∃ t, (r.resolve usage (.inline s)).outcome st = (.ok t, st) ∧
      r.profile.ListsMembers template usage.enumName item.enumValues values t.defaultValue := by
  have hout := outcome_of_array usage st hform (Components.walk_of_isEnum henum) rfl
    (leafType_of_isEnum (r := r) henum)
  rcases he : r.profile.enumType r.flags item (usage.location ++ "/items") with e | e <;>
    rw [he] at hout
  · exact .inl ⟨e, rfl, hout⟩
  · refine .inr ⟨_, hout, Profile.listsMembers_iff.mpr ?_⟩
    rw [r.defaultValue_finish_array usage _ hdefault hne htemplate, Profile.elementLiteral_enum rfl,
      funext (Profile.memberLiteral_eq_memberText? he _)]
    rfl

/-- The elements are any scalars where the items are a pointer to the enum. -/
theorem exists_literals_of_pointed_items (hscalar : ∀ v ∈ values, v.isScalar = true)
    {pointer name : String} (hform : s.form = .array (some (.ref pointer)))
    (hname : componentName "schemas" pointer = .ok name)
    (hfound : r.components.schemas.lookup name = some (.inline item)) :
    ∃ t literals, (r.resolve usage (.inline s)).outcome st = (.ok t, st) ∧
      values.map (r.profile.scalarLiteral · (some (Name.ofText name).pascalCase)) =
        literals.map some ∧
      t.defaultValue = some (r.profile.listed template literals) := by
  obtain ⟨literals, hliterals⟩ :=
    r.profile.exists_scalarLiterals hscalar (some (Name.ofText name).pascalCase)
  refine ⟨_, literals, outcome_of_array usage st hform
    (Components.walk_pointer_of_isEnum hname hfound henum)
    (Components.target_pointer hname hfound) (leafType_model _), hliterals, ?_⟩
  refine (r.defaultValue_finish_array usage _ hdefault hne htemplate).trans ?_
  rw [Profile.elementLiteral_model rfl]
  exact congrArg (Option.map _) (mapM_eq_some_iff.mpr hliterals)

end EnumItems

/-- The elements of an array whose items are an enum are written as members of this enum. If the
items are a pointer to an enum, the elements are written like any other scalars; they are the
members that stand for them only if the whole default reads alike. -/
theorem default_of_enum_array (r : Resolver) (usage : Usage) (st : Promotions) {item : Schema}
    {items : SchemaNode} {values : List Json.Value} {template : String}
    (hform : s.form = .array (some items)) (hdefault : s.defaultValue = some (.array values))
    (hne : values ≠ []) (hscalar : ∀ v ∈ values, v.isScalar = true)
    (htemplate : r.profile.array.literalTemplate = some template) (henum : item.isEnum = true) :
    (items = .inline item →
      (∃ e, r.profile.enumType r.flags item (usage.location ++ "/items") = .error e ∧
        (r.resolve usage (.inline s)).outcome st = (.error e, st)) ∨
      ∃ t, (r.resolve usage (.inline s)).outcome st = (.ok t, st) ∧
        r.profile.ListsMembers template usage.enumName item.enumValues values t.defaultValue) ∧
    ∀ pointer name, items = .ref pointer → componentName "schemas" pointer = .ok name →
      r.components.schemas.lookup name = some (.inline item) →
      ∃ t literals, (r.resolve usage (.inline s)).outcome st = (.ok t, st) ∧
        values.map (r.profile.scalarLiteral · (some (Name.ofText name).pascalCase)) =
          literals.map some ∧
        t.defaultValue = some (r.profile.listed template literals) ∧
        (r.profile.ListsMembers template (Name.ofText name).pascalCase item.enumValues values
            t.defaultValue ↔
          ∃ texts, values.map (r.profile.memberText? (Name.ofText name).pascalCase
              item.enumValues) = texts.map some ∧
            r.profile.listed template texts = r.profile.listed template literals) := by
  constructor
  · rintro rfl
    exact listsMembers_of_enum_items usage st hdefault hne htemplate henum hform
  · rintro pointer name rfl hname hfound
    obtain ⟨t, literals, hout, hliterals, hvalue⟩ := exists_literals_of_pointed_items usage st
      hdefault hne htemplate henum hscalar hform hname hfound
    refine ⟨t, literals, hout, hliterals, hvalue, ?_⟩
    rw [hvalue, Profile.listsMembers_iff, eq_comm, Option.map_eq_some_iff]
    simp only [mapM_eq_some_iff]

/-- An array of enums with a default. -/
def colors (items : SchemaNode) (values : List String) : Schema where
  type := some (.single .array)
  items := some items
  defaultValue := some (.array (values.map .text))

/-- Where the items are the enum itself, the default lists its members. There is none if some text
is not a member. -/
theorem default_of_colors :
    let r : Resolver := { components := {}, profile := .jaxrsSpec, flags := {} }
    let usage : Usage := .standalone "#" "Item"
    (∃ t, (r.resolve usage (.inline (colors (.inline color) ["red", "green"]))).outcome {} =
        (.ok t, {}) ∧
      t.defaultValue.map DefaultValue.literal =
        some "new ArrayList<>(Arrays.asList(Item.RED, Item.GREEN))") ∧
    ∃ t, (r.resolve usage (.inline (colors (.inline color) ["red", "blue"]))).outcome {} =
        (.ok t, {}) ∧ t.defaultValue = none := by
  intro r usage
  have hchecked (e : ResolveError) :
      r.profile.enumType r.flags color (usage.location ++ "/items") ≠ .error e := by
    intro he
    have hok : (r.profile.enumType r.flags color (usage.location ++ "/items")).isOk = true := by
      decide +kernel
    rw [he] at hok
    cases hok
  have hlists (values : List String) (hne : values.map Json.Value.text ≠ []) :
      ∃ t, (r.resolve usage (.inline (colors (.inline color) values))).outcome {} = (.ok t, {}) ∧
        r.profile.ListsMembers "new ArrayList<>(Arrays.asList(\x7bitem\x7d))" "Item"
          color.enumValues (values.map .text) t.defaultValue := by
    have hscalar : ∀ v ∈ values.map Json.Value.text, v.isScalar = true := by
      intro v hv
      obtain ⟨_, -, rfl⟩ := List.mem_map.mp hv
      rfl
    have henum : color.isEnum = true := rfl
    obtain ⟨hinline, -⟩ := r.default_of_enum_array usage {} (s := colors (.inline color) values)
      rfl rfl hne hscalar rfl henum
    exact (hinline rfl).resolve_left fun ⟨e, he, _⟩ => hchecked e he
  constructor
  · obtain ⟨t, hout, hlist⟩ := hlists ["red", "green"] nofun
    refine ⟨t, hout, ?_⟩
    rw [hlist.listed ["Item.RED", "Item.GREEN"] (by decide +kernel)]
    decide +kernel
  · obtain ⟨t, hout, hlist⟩ := hlists ["red", "blue"] nofun
    exact ⟨t, hout, hlist.dropped ⟨.text "blue", by simp, by decide +kernel⟩⟩

/-- Where the items are a pointer to the enum, the default lists texts, although the enum has members
for them. -/
theorem enum_array_of_texts :
    let r : Resolver := {
      components := { schemas := [("Color", .inline color)] }
      profile := .jaxrsSpec
      flags := {} }
    [.text "red", .text "green"].map (r.profile.memberText? "Color" color.enumValues) =
        [some "Color.RED", some "Color.GREEN"] ∧
      ∃ t st, (r.resolve (.standalone "#" "Item") (.inline
          (colors (.ref (pointerTo "schemas" "Color")) ["red", "green"]))).outcome {} =
            (.ok t, st) ∧
        t.defaultValue.map DefaultValue.literal =
          some "new ArrayList<>(Arrays.asList(\"red\", \"green\"))" :=
  ⟨by decide +kernel, Resolving.exists_outcome (by decide +kernel)⟩

end Resolver

end ApiModel
