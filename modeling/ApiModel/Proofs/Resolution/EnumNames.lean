import ApiModel.Proofs.Resolution.EnumDefaults
import ApiModel.Proofs.Resolution.Law
import ApiModel.Proofs.Resolution.ModelForm

/-!
# The names of inline enums

An enum without a name of its own gets the one that its use has for it. No other name is looked at
for that: neither those of other enums nor those of models are kept out of the way. The use of a
property, and that of a parameter, has a name for an enum that follows from the name of the property
or the parameter alone.

So the type of a field that is an enum is called after the property, in every model that a resolver
builds or promotes, and so is the type of a parameter that is one.

## Main definitions

* `enumNameOf`: what an enum is called after a text.
* `Field.NamesEnum`, `Model.NamesEnums`, `ApiParameter.NamesEnum`: enums are called after
  properties and parameters.
* `Resolver.EnumsOf`: a shape that is an enum is the one of its use.

## Main results

* `Resolver.yields_leafType`: the type of a leaf.
* `Resolver.yields_component`, `Resolver.yields_operation`: the answers of a resolver.
-/

namespace ApiModel

/-- What an enum is called after a text. -/
def enumNameOf (text : String) : String := (Name.ofText text).pascalCase ++ "Enum"

theorem TypeKind.ne_enum {kind : TypeKind ResolvedType} (h : kind.enumType = []) (e : EnumType) :
    kind ≠ .enum e := by
  rintro rfl
  cases h

/-- If a type is an enum, it has a name. -/
def ResolvedType.NamesEnum (name : String) (t : ResolvedType) : Prop :=
  ∀ e, t.kind = .enum e → t.name = name

/-- If the type of a field is an enum, it is called after the property. -/
def Field.NamesEnum (f : Field) : Prop := f.type.NamesEnum (enumNameOf f.property)

/-- If the type of a parameter is an enum, it is called after the parameter. -/
def ApiParameter.NamesEnum (q : ApiParameter) : Prop := q.type.NamesEnum (enumNameOf q.name)

/-- The fields of a model that are enums are called after their properties. -/
def Model.NamesEnums (m : Model) : Prop := ∀ f ∈ m.fields, f.NamesEnum

namespace Resolver

open Resolving

variable {r : Resolver} {shape : Shape} {usage : Usage} {node : SchemaNode} {s : Schema}
  {t : ResolvedType}

/-- If a shape is an enum, it is one by the name that its use has for it. -/
def EnumsOf (usage : Usage) (t : ResolvedType) : Prop :=
  ∀ e, t.kind = .enum e → t = .ofTarget (.named usage.enumName) (.enum e)

/-- What is yielded when enums are called after properties in all promoted models. -/
abbrev YieldsNamed {α : Type} (x : Resolving α) (Q : α → Prop) : Prop :=
  Yields Model.NamesEnums x Q

/-- A way to resolve a schema names enums by their use. -/
def NamesShape (shape : Shape) : Prop :=
  ∀ usage node, YieldsNamed (shape usage node) (EnumsOf usage)

theorem enumsOf_ofTarget {target : TargetType} {kind : TypeKind ResolvedType}
    (h : kind.enumType = []) : EnumsOf usage (.ofTarget target kind) :=
  fun e he => absurd he (TypeKind.ne_enum h e)

theorem EnumsOf.finish (h : EnumsOf usage t) (target : Schema) :
    (r.finish usage target t).NamesEnum usage.enumName := by
  intro e he
  rw [kind_finish] at he
  rw [h e he]
  exact name_finish rfl

/-- Containers are no enums. -/
theorem EnumsOf.wrap (h : EnumsOf usage t) (w : Walk) : EnumsOf usage (w.wrap r.profile t) := by
  intro e he
  obtain ⟨_ | ⟨layer, layers⟩, stands, leaf⟩ := w
  · exact h e he
  · cases layer <;> cases he

/-! ### The parts of a resolver -/

section Parts

variable (hs : NamesShape shape)

include hs

theorem yields_unionType (usage : Usage) (s : Schema) :
    YieldsNamed (unionType shape usage s) fun _ => True := by
  rw [unionType]
  exact (Yields.mapM fun b _ => hs _ b.1).bind fun _ _ =>
    Yields.liftOption.bind fun _ _ => .pure trivial

theorem yields_resolveWith (usage : Usage) (node : SchemaNode) :
    YieldsNamed (r.resolveWith shape usage node) (ResolvedType.NamesEnum usage.enumName) :=
  (hs usage node).bind fun _ ht => Yields.liftOk.bind fun target _ => .pure (ht.finish target)

theorem yields_field (owner location : String) (q : Property) :
    YieldsNamed (r.field shape owner location q) Field.NamesEnum :=
  (yields_resolveWith hs _ q.node).bind fun _ ht => Yields.liftOk.bind fun _ _ => .pure ht

theorem yields_fields (owner location : String) (properties : List Property) :
    YieldsNamed (r.fields shape owner location properties) fun fields =>
      ∀ f ∈ fields, f.NamesEnum := by
  refine (Yields.mapM fun q _ => yields_field hs owner location q).bind fun asked hasked => .pure ?_
  intro f hf
  obtain ⟨f', hf', heq⟩ := exists_of_mem_numberFields hf
  obtain ⟨q, -, hq⟩ := exists_of_forall₂ hasked hf'
  rw [heq]
  exact hq

theorem yields_modelOf (name : Name) (description : Option String) (owner location : String)
    (form : ModelForm) : YieldsNamed (r.modelOf shape { name, description } owner location form)
      Model.NamesEnums := by
  cases form with
  | enum s => exact Yields.liftOk.bind fun _ _ => .pure (List.forall_mem_nil _)
  | union s => exact (yields_unionType hs _ s).bind fun _ _ => .pure (List.forall_mem_nil _)
  | synonym node => exact (yields_resolveWith hs _ node).bind fun _ _ => .pure (List.forall_mem_nil _)
  | object parent properties d =>
    exact (yields_fields hs _ _ properties).bind fun _ hfields =>
      Yields.liftOption.bind fun _ _ => .pure hfields

theorem yields_buildModel (name : Name) (s : Schema) (location : String) :
    YieldsNamed (r.buildModel shape name s location) Model.NamesEnums := by
  rw [r.buildModel_eq]
  exact Yields.liftOk.bind fun form _ => yields_modelOf hs _ _ _ _ form

theorem yields_promote (usage : Usage) (s : Schema) :
    YieldsNamed (r.promote shape usage s) fun _ => True :=
  (Yields.claim _).bind fun _ _ => (yields_buildModel hs _ s _).bind fun _ hm =>
    (Yields.push hm).bind fun _ _ => .pure trivial

/-- The type of a leaf is an enum only if the leaf is one. -/
theorem yields_leafType (usage : Usage) (l : Leaf) :
    YieldsNamed (r.leafType shape usage l) (EnumsOf usage) := by
  cases l with
  | model name => exact .pure (enumsOf_ofTarget (by rfl))
  | any => exact .pure (enumsOf_ofTarget (by rfl))
  | schema s =>
    unfold leafType
    dsimp only
    cases s.form with
    | enum =>
      refine Yields.liftOk.bind fun e _ => .pure ?_
      rintro _ ⟨⟩
      rfl
    | union => exact (yields_unionType hs usage s).bind fun _ _ => .pure (enumsOf_ofTarget (by rfl))
    | composed | object =>
      exact (yields_promote hs usage s).bind fun _ _ => .pure (enumsOf_ofTarget (by rfl))
    | alternatives types => exact Yields.liftOk.bind fun _ _ => .pure (enumsOf_ofTarget (by rfl))
    | primitive type =>
      refine .lift fun t ht => ?_
      rw [Profile.primitive] at ht
      split at ht <;> cases ht
      exact enumsOf_ofTarget (by rfl)
    | _ => exact .pure (enumsOf_ofTarget (by rfl))

end Parts

/-! ### The shape of a schema -/

theorem namesShape_shapeByWalk {inner : Leaf → Shape} (hs : ∀ l, NamesShape (inner l)) :
    NamesShape (r.shapeByWalk inner) := fun usage _ =>
  Yields.liftOk.bind fun w _ =>
    (yields_leafType (hs w.leaf) { usage with location := w.location } w.leaf).bind fun _ ht =>
      .pure (EnumsOf.wrap ht w)

theorem namesShape_shapeWithin : ∀ n, NamesShape (r.shapeWithin n)
  | 0 => fun _ _ => .throw
  | n + 1 => namesShape_shapeByWalk fun _ => namesShape_shapeWithin n

theorem namesShape_shape : NamesShape r.shape :=
  namesShape_shapeByWalk fun l => namesShape_shapeWithin (r.components.size + l.size)

/-! ### The answers of a resolver -/

theorem yields_resolve (usage : Usage) (node : SchemaNode) :
    YieldsNamed (r.resolve usage node) (ResolvedType.NamesEnum usage.enumName) :=
  yields_resolveWith namesShape_shape usage node

theorem yields_component (name : String) (node : SchemaNode) :
    YieldsNamed (r.component name node) Model.NamesEnums := by
  rw [r.component_eq]
  exact Yields.liftOk.bind fun form _ => yields_modelOf namesShape_shape _ _ _ _ form

theorem yields_parameter (owner location : String) (q : Parameter) :
    YieldsNamed (r.parameter owner location q) ApiParameter.NamesEnum := by
  rw [parameter]
  dsimp only
  split
  next node _ =>
    simp only [pure_bind]
    exact (yields_resolve _ node).bind fun _ ht => Yields.liftOk.bind fun _ _ => .pure ht
  next =>
    simp only [pure_bind]
    exact .pure fun e he => absurd he (TypeKind.ne_enum rfl e)

theorem yields_parameters (owner location : String) (item : PathItem) (op : Operation) :
    YieldsNamed (r.parameters owner location item op) fun qs => ∀ q ∈ qs, q.NamesEnum := by
  refine Yields.liftOk.bind fun declared _ => ?_
  refine (Yields.mapM fun q _ => yields_parameter owner location q).bind
    fun asked hasked => .pure ?_
  intro q hq
  obtain ⟨q', hq', heq⟩ := exists_of_mem_numberParameters hq
  obtain ⟨declaration, -, hnamed⟩ := exists_of_forall₂ hasked hq'
  rw [heq]
  exact hnamed

theorem yields_requestBody (owner location : String) (body : Referable RequestBody) :
    YieldsNamed (r.requestBody owner location body) fun _ => True := by
  refine Yields.liftOk.bind fun b _ => ?_
  split
  · exact .pure trivial
  · dsimp only
    split
    next node _ => exact (yields_resolve _ node).bind fun _ _ => .pure trivial
    next =>
      simp only [pure_bind]
      exact .pure trivial

theorem yields_responseOf (owner location : String) (op : Operation) :
    YieldsNamed (r.responseOf owner location op) fun _ => True := by
  rw [responseOf]
  split
  · exact .pure trivial
  refine Yields.liftOk.bind fun response _ => ?_
  split
  · exact .pure trivial
  next node _ => exact (yields_resolve _ node).bind fun _ _ => .pure trivial

theorem yields_operation (e : Endpoint) :
    YieldsNamed (r.operation e) fun op => ∀ q ∈ op.parameters, q.NamesEnum := by
  rw [operation]
  dsimp only
  refine (yields_parameters _ _ _ _).bind fun _ hparameters => ?_
  split
  · exact (yields_requestBody _ _ _).bind fun _ _ =>
      (yields_responseOf _ _ _).bind fun _ _ => .pure hparameters
  · rw [pure_bind]
    exact (yields_responseOf _ _ _).bind fun _ _ => .pure hparameters

end Resolver

end ApiModel
