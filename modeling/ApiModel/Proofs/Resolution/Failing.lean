import ApiModel.Proofs.Resolution.Detectors
import ApiModel.Proofs.Resolution.Law

/-!
# Which cycles a resolver reports

Where a contract has no cycle, the only part of a resolver that may still report one is the check
of the parents, when it meets the name with which it starts. For a named schema that would be a
cycle of the contract. For a promoted model it need not be: its name was made from the names around
it, and may happen to be that of a named schema.

The names of the models of named schemas are taken from the start, and are not given out again. So a
cycle is reported only under a name that differs from those, which is to say that it is not in
`PascalCase`.

## Main definitions

* `Components.FalseReport`: an error that reports a cycle where there is none.
* `Resolving.OnlyFalseReports`: a resolving that reports no other cycles.

## Main results

* `Resolving.OnlyFalseReports.bind`, `Resolving.OnlyFalseReports.mapM`: what follows an answer, and
  answers in order.
* `Resolver.onlyFalseReports_component`, `Resolver.onlyFalseReports_operation`: the answers of a
  resolver.
-/

namespace ApiModel

/-- A report of a cycle that is none: a model of a name that is not in `PascalCase`, and is not that
of a named schema, extends a schema of which some parent has this name by chance. -/
def Components.FalseReport (c : Components) (e : ResolveError) : Prop :=
  ∃ name s location between, c.parentOf name s location = .error e ∧
    e = .circular location (name :: between ++ [name]) ∧
    name ∈ c.schemaNames ∧ name ∉ c.modelNames ∧ (name, .inline s) ∉ c.schemas

/-- A resolving reports no cycle but a false one, and leaves all names taken that are those of the
models of named schemas. -/
def Resolving.OnlyFalseReports {α : Type} (c : Components) (x : Resolving α) : Prop :=
  ∀ st : Promotions, c.modelNames ⊆ st.names.taken →
    c.modelNames ⊆ (x.outcome st).2.names.taken ∧
      ∀ e, (x.outcome st).1 = .error e → e.isCircular = true → c.FalseReport e

namespace Resolving.OnlyFalseReports

variable {c : Components} {α β : Type} {x : Resolving α} {f : α → Resolving β}

/-! ### Rules -/

theorem pure (a : α) : OnlyFalseReports c (Pure.pure a) :=
  fun _ hst => ⟨hst, fun _ h => nomatch h⟩

theorem throw {e : ResolveError} (h : e.isCircular = false) :
    OnlyFalseReports (α := α) c (MonadExcept.throw e) := by
  refine fun st hst => ⟨hst, fun e' he hcircular => ?_⟩
  obtain rfl : e = e' := Except.error.inj he
  exact absurd hcircular (by rw [h]; decide)

theorem liftFalse {e : Except ResolveError α}
    (h : ∀ e', e = .error e' → e'.isCircular = true → c.FalseReport e') :
    OnlyFalseReports c (liftM e) :=
  fun _ hst => ⟨hst, h⟩

theorem lift {e : Except ResolveError α} (h : Uncircular e) : OnlyFalseReports c (liftM e) :=
  liftFalse fun e' he hcircular => absurd hcircular (by rw [h e' he]; decide)

theorem bind (hx : OnlyFalseReports c x) (hf : ∀ a, OnlyFalseReports c (f a)) :
    OnlyFalseReports c (x >>= f) := by
  intro st hst
  obtain ⟨htaken, herror⟩ := hx st hst
  rw [outcome_bind]
  rcases hout : x.outcome st with ⟨e | a, st'⟩ <;> rw [hout] at htaken herror
  · exact ⟨htaken, fun e' he => herror e' (congrArg _ (Except.error.inj he))⟩
  · exact hf a st' htaken

theorem mapM {l : List α} (hf : ∀ a ∈ l, OnlyFalseReports c (f a)) :
    OnlyFalseReports c (l.mapM f) := by
  induction l with
  | nil => exact .pure []
  | cons a l ih =>
    rw [List.mapM_cons]
    exact (hf a List.mem_cons_self).bind fun b =>
      (ih fun a' ha' => hf a' (List.mem_cons_of_mem _ ha')).bind fun bs => .pure _

theorem liftOption {g : α → Except ResolveError β} {o : Option α} (h : ∀ a, Uncircular (g a)) :
    OnlyFalseReports c (o.mapM fun a => liftM (g a)) := by
  cases o with
  | none => exact .pure none
  | some a =>
    rw [Option.mapM_some, map_eq_pure_bind]
    exact (lift (h a)).bind fun b => .pure _

theorem push (m : Model) : OnlyFalseReports c (Promotions.push m) :=
  fun _ hst => ⟨hst, fun _ h => nomatch h⟩

end Resolving.OnlyFalseReports

/-! ### Checks that look for no cycle

The checks of an enum look at one place only. -/

namespace Profile

variable (p : Profile)

theorem primitive_local (type : SchemaType) (format : Option String) (location : String) :
    Local (p.primitive type format location) := by
  unfold primitive
  split
  · exact .ok _
  · exact .error rfl

theorem memberTypeName_local (s : Schema) (location : String) :
    Local (p.memberTypeName s location) := by
  unfold memberTypeName
  split
  next type _ =>
    split
    · have hprimitive := p.primitive_local type s.format location
      rcases hout : p.primitive type s.format location with e | t
      · exact hprimitive.passOn hout
      · exact .ok _
    · exact .ok _
  next => exact .ok _

theorem member_local (typeName : Option String) (location : String)
    (entry : Json.Value × String) : Local (p.member typeName location entry) := by
  unfold member
  split
  · exact .ok _
  · exact .error rfl

theorem enumType_local (flags : Flags) (s : Schema) (location : String) :
    Local (p.enumType flags s location) := by
  unfold enumType
  refine (p.memberTypeName_local s location).bind fun typeName _ => ?_
  refine (FailsOnly.mapM fun entry _ =>
    p.member_local typeName location entry).bind fun members _ => ?_
  split
  · exact .ok _
  · exact .ok _

end Profile

namespace Resolver

theorem mappingTarget_uncircular (target : String) : Uncircular (mappingTarget target) := by
  unfold mappingTarget
  split
  · exact (componentName_uncircular _ _).bind fun _ _ => .ok _
  · exact .ok _

theorem discriminator_uncircular (branches : List SchemaNode) (d : ContractDiscriminator) :
    Uncircular (Resolver.discriminator branches d) := by
  unfold Resolver.discriminator
  split
  · refine (FailsOnly.mapM fun pointer _ => ?_).bind fun mapping _ => .ok _
    exact (componentName_uncircular _ _).bind fun _ _ => .ok _
  · refine (FailsOnly.mapM fun entry _ => ?_).bind fun mapping _ => .ok _
    exact (mappingTarget_uncircular entry.2).bind fun _ _ => .ok _

/-! ### The parts of a resolver -/

open Resolving

variable {r : Resolver} {shape : Shape}

/-- A way to resolve a schema reports no cycle but a false one. -/
def ShapesOnlyFalseReports (c : Components) (shape : Shape) : Prop :=
  ∀ usage node, OnlyFalseReports c (shape usage node)

/-- The check of the parents reports a false cycle, if any, as long as the name with which it starts
is that of the schema itself or is not in `PascalCase`. -/
theorem onlyFalseReports_parentOf (hc : r.components.Acyclic) {name : String}
    {s : Schema} (location : String)
    (hname : name ∉ r.components.modelNames ∨ (name, .inline s) ∈ r.components.schemas) :
    OnlyFalseReports r.components (liftM (r.components.parentOf name s location)) := by
  refine .liftFalse fun e he hcircular => ?_
  obtain ⟨hmem, hother, between, hchain⟩ := Components.circular_of_parentOf hc he hcircular
  exact ⟨name, s, location, between, he, hchain, hmem, hname.resolve_right hother, hother⟩

section Parts

variable (hc : r.components.Acyclic) (hs : ShapesOnlyFalseReports r.components shape)

include hs

theorem onlyFalseReports_unionType (usage : Usage) (s : Schema) :
    OnlyFalseReports r.components (unionType shape usage s) := by
  rw [unionType]
  rcases unionBranches s with ⟨keyword, branches⟩
  refine (OnlyFalseReports.mapM fun b _ => hs _ _).bind fun members => ?_
  refine (OnlyFalseReports.liftOption fun d =>
    discriminator_uncircular branches d).bind fun d => .pure _

include hc

theorem onlyFalseReports_resolveWith (usage : Usage) (node : SchemaNode) :
    OnlyFalseReports r.components (r.resolveWith shape usage node) :=
  (hs usage node).bind fun _ =>
    (OnlyFalseReports.lift (Components.target_uncircular hc node)).bind fun _ => .pure _

theorem onlyFalseReports_field (owner location : String) (p : Property) :
    OnlyFalseReports r.components (r.field shape owner location p) :=
  (onlyFalseReports_resolveWith hc hs _ _).bind fun _ =>
    (OnlyFalseReports.lift (Components.target_uncircular hc p.node)).bind fun _ => .pure _

theorem onlyFalseReports_fields (owner location : String) (properties : List Property) :
    OnlyFalseReports r.components (r.fields shape owner location properties) :=
  (OnlyFalseReports.mapM fun p _ => onlyFalseReports_field hc hs owner location p).bind
    fun _ => .pure _

theorem onlyFalseReports_synonym (base : Model) (owner location : String) (node : SchemaNode) :
    OnlyFalseReports r.components (r.synonym shape base owner location node) :=
  (onlyFalseReports_resolveWith hc hs _ _).bind fun _ => .pure _

theorem onlyFalseReports_object (base : Model) (owner location : String)
    (properties : List Property) (d : Option ContractDiscriminator) :
    OnlyFalseReports r.components (r.object shape base owner location properties d) :=
  (onlyFalseReports_fields hc hs owner location properties).bind fun _ =>
    (OnlyFalseReports.liftOption fun d => discriminator_uncircular [] d).bind fun _ => .pure _

theorem onlyFalseReports_compose (base : Model) (owner location : String) {s : Schema}
    (hname : base.name.text ∉ r.components.modelNames ∨
      (base.name.text, .inline s) ∈ r.components.schemas) :
    OnlyFalseReports r.components (r.compose shape base owner location s) := by
  rw [compose]
  split
  · exact onlyFalseReports_synonym hc hs base owner location _
  · refine (onlyFalseReports_parentOf hc location hname).bind fun parent => ?_
    split
    · exact onlyFalseReports_object hc hs _ owner location _ _
    · refine (OnlyFalseReports.lift
        (Components.merge_uncircular hc location s)).bind fun merged => ?_
      split
      · exact onlyFalseReports_synonym hc hs base owner location _
      · exact .pure base
      · exact onlyFalseReports_object hc hs base owner location _ _

theorem onlyFalseReports_buildModel (name : Name) {s : Schema} (location : String)
    (hname : name.text ∉ r.components.modelNames ∨
      (name.text, .inline s) ∈ r.components.schemas) :
    OnlyFalseReports r.components (r.buildModel shape name s location) := by
  rw [buildModel]
  dsimp only
  split
  · exact (OnlyFalseReports.lift (r.profile.enumType_local r.flags s location).uncircular).bind
      fun e => .pure _
  split
  · exact (onlyFalseReports_unionType hs _ s).bind fun u => .pure _
  split
  · exact onlyFalseReports_compose hc hs _ _ location hname
  split
  · exact onlyFalseReports_object hc hs _ _ location _ _
  · exact onlyFalseReports_synonym hc hs _ _ location _

/-- A promoted model is given a name that was free, so it is none of the names that are taken from
the start. -/
theorem onlyFalseReports_promote (usage : Usage) (s : Schema) :
    OnlyFalseReports r.components (r.promote shape usage s) := by
  intro st hst
  rw [promote, outcome_bind, outcome_claim]
  have hfree : st.names.grant usage.inlineName ∉ r.components.modelNames :=
    fun hmem => st.names.grant_notMem usage.inlineName (hst hmem)
  have hbuild := onlyFalseReports_buildModel hc hs
    (Name.ofText (st.names.grant usage.inlineName)) (s := s) usage.location
    (.inl (by rwa [Name.text_ofText]))
  have hrest := hbuild.bind fun m => (OnlyFalseReports.push m).bind fun _ =>
    .pure (c := r.components) (st.names.grant usage.inlineName)
  exact hrest _ fun n hn => List.mem_cons_of_mem _ (hst hn)

theorem onlyFalseReports_leafType (usage : Usage) (l : Leaf) :
    OnlyFalseReports r.components (r.leafType shape usage l) := by
  cases l with
  | model name => exact .pure _
  | any => exact .pure _
  | schema s =>
    unfold leafType
    dsimp only
    split
    · exact (OnlyFalseReports.lift
        (r.profile.enumType_local r.flags s usage.location).uncircular).bind fun e => .pure _
    · exact (onlyFalseReports_unionType hs usage s).bind fun u => .pure _
    · exact (onlyFalseReports_promote hc hs usage s).bind fun name => .pure _
    · exact (onlyFalseReports_promote hc hs usage s).bind fun name => .pure _
    · exact (OnlyFalseReports.lift (FailsOnly.mapM fun type _ =>
        (r.profile.primitive_local type s.format usage.location).uncircular)).bind fun ts => .pure _
    · exact .lift (r.profile.primitive_local _ _ _).uncircular
    · exact .pure _

end Parts

section Answers

variable (hc : r.components.Acyclic)

include hc

theorem onlyFalseReports_shapeByWalk {inner : Leaf → Shape}
    (hs : ∀ l, ShapesOnlyFalseReports r.components (inner l)) :
    ShapesOnlyFalseReports r.components (r.shapeByWalk inner) := fun usage node =>
  (OnlyFalseReports.lift (Components.walk_uncircular hc (r.components.leadsTo_empty node)
    usage.location)).bind fun w =>
      (onlyFalseReports_leafType hc (hs w.leaf) _ w.leaf).bind fun _ => .pure _

theorem onlyFalseReports_shapeWithin :
    ∀ n, ShapesOnlyFalseReports r.components (r.shapeWithin n)
  | 0 => fun _ _ => .throw rfl
  | n + 1 => onlyFalseReports_shapeByWalk hc fun _ => onlyFalseReports_shapeWithin n

theorem onlyFalseReports_shape : ShapesOnlyFalseReports r.components r.shape :=
  onlyFalseReports_shapeByWalk hc fun l =>
    onlyFalseReports_shapeWithin hc (r.components.size + l.size)

theorem onlyFalseReports_resolve (usage : Usage) (node : SchemaNode) :
    OnlyFalseReports r.components (r.resolve usage node) :=
  onlyFalseReports_resolveWith hc (onlyFalseReports_shape hc) usage node

/-! ### The answers of a resolver -/

/-- A named schema reports no cycle but a false one: its own parents are checked under its name. -/
theorem onlyFalseReports_component {name : String} {node : SchemaNode}
    (h : (name, node) ∈ r.components.schemas) :
    OnlyFalseReports r.components (r.component name node) := by
  unfold component
  cases node with
  | inline s =>
    refine onlyFalseReports_buildModel hc (onlyFalseReports_shape hc) _ _ (.inr ?_)
    rwa [Name.text_ofText]
  | ref pointer => exact onlyFalseReports_synonym hc (onlyFalseReports_shape hc) _ _ _ _

theorem onlyFalseReports_parameter (owner location : String) (q : Parameter) :
    OnlyFalseReports r.components (r.parameter owner location q) := by
  rw [parameter]
  dsimp only
  split
  next node _ =>
    simp only [pure_bind]
    exact (onlyFalseReports_resolve hc _ node).bind fun t =>
      (OnlyFalseReports.lift (Components.target_uncircular hc node)).bind fun target => .pure _
  next =>
    simp only [pure_bind]
    exact .pure _

theorem onlyFalseReports_parameters (owner location : String) (item : PathItem)
    (op : Operation) : OnlyFalseReports r.components (r.parameters owner location item op) := by
  rw [parameters]
  refine (OnlyFalseReports.lift (FailsOnly.mapM fun q _ => ?_)).bind fun declared => ?_
  · cases q with
    | ref pointer => exact Components.parameter_uncircular hc pointer
    | inline q => exact .ok q
  · exact (OnlyFalseReports.mapM fun q _ =>
      onlyFalseReports_parameter hc owner location q).bind fun _ => .pure _

theorem onlyFalseReports_requestBody (owner location : String) (body : Referable RequestBody) :
    OnlyFalseReports r.components (r.requestBody owner location body) := by
  rw [requestBody]
  refine (OnlyFalseReports.lift ?_).bind fun body => ?_
  · cases body with
    | ref pointer => exact Components.requestBody_uncircular hc pointer
    | inline body => exact .ok body
  split
  · exact .pure none
  dsimp only
  split
  · exact (onlyFalseReports_resolve hc _ _).bind fun t => .pure _
  · rw [pure_bind]
    exact .pure _

theorem onlyFalseReports_responseOf (owner location : String) (op : Operation) :
    OnlyFalseReports r.components (r.responseOf owner location op) := by
  rw [responseOf]
  split
  · exact .pure _
  next response _ =>
    refine (OnlyFalseReports.lift ?_).bind fun response => ?_
    · cases response with
      | ref pointer => exact Components.response_uncircular hc pointer
      | inline response => exact .ok response
    split
    · exact .pure _
    · exact (onlyFalseReports_resolve hc _ _).bind fun t => .pure _

/-- An operation reports no cycle but a false one. -/
theorem onlyFalseReports_operation (endpoint : Endpoint) :
    OnlyFalseReports r.components (r.operation endpoint) := by
  rw [operation]
  dsimp only
  refine (onlyFalseReports_parameters hc _ _ _ _).bind fun ps => ?_
  split
  · exact (onlyFalseReports_requestBody hc _ _ _).bind fun body =>
      (onlyFalseReports_responseOf hc _ _ _).bind fun response => .pure _
  · rw [pure_bind]
    exact (onlyFalseReports_responseOf hc _ _ _).bind fun response => .pure _

end Answers

/-- What fails with nothing promoted before fails as it does from the state in which the names of
the models of named schemas are taken. -/
theorem falseReport_of_run {α : Type} {x : Resolving α} {e : ResolveError}
    (hx : OnlyFalseReports r.components x) (h : r.run x = .error e)
    (hcircular : e.isCircular = true) : r.components.FalseReport e := by
  obtain ⟨-, herror⟩ := hx (Promotions.initial r.components) fun n hn => List.mem_append_left _ hn
  refine herror e ?_ hcircular
  rw [run] at h
  split at h
  next => cases h
  next e' st hout =>
    obtain rfl : e' = e := Except.error.inj h
    exact congrArg Prod.fst hout

end Resolver

end ApiModel
