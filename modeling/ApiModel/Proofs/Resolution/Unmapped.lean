import ApiModel.Proofs.Resolution.Errors
import ApiModel.Proofs.Resolution.Merging
import ApiModel.Proofs.Resolution.ModelForm
import ApiModel.Proofs.Resolution.Standing

/-!
# Types without a row

Two places of a resolver look up a type in the table of the profile: a primitive is looked up with
its format, and so is every type that a schema lists beside others. All other errors have other
reasons. So a type is without a row only if the table has none for a primitive, or none for a type
that is listed, which may be `array` or `object` as well.

## Main definitions

* `NeverUnmapped`: a check that looks up no type.
* `SchemaBody.ListsType`: a schema lists a type beside others.
* `Resolver.Lacks`: what the table of a resolver may lack, for the schemas in a closed set of
  positions.

## Main results

* `Components.walk_neverUnmapped`, `Components.modelForm_neverUnmapped`: what looks up no type.
* `SchemaBody.ListsType.ne_null`, `SchemaBody.isPrimitive_of_form`: the types that are looked up.
* `Resolver.Lacks.component`, `Resolver.Lacks.operation`: the errors of a resolver.
-/

namespace ApiModel

/-! ### Checks that do not look up a type -/

/-- Whether an error reports a type without a row. -/
def ResolveError.isUnmapped : ResolveError → Bool
  | unmapped _ _ _ _ => true
  | invalidPointer _ | missingTarget _ | circular _ _ | malformed _ _ | endless _ => false

/-- A check that fails, if it does, for another reason than a type without a row. -/
abbrev NeverUnmapped {α : Type} (x : Except ResolveError α) : Prop :=
  FailsOnly (fun e => e.isUnmapped = false) x

theorem componentName_neverUnmapped (kind pointer : String) :
    NeverUnmapped (componentName kind pointer) := by
  unfold componentName
  split
  · split
    · exact .error rfl
    · exact .ok _
  · exact .error rfl

theorem follow_neverUnmapped {α β : Type} (kind : String) (view : β → Referable α)
    (entries : List (String × β)) (location : Option String) (chain : Chain) (pointer : String) :
    NeverUnmapped (follow kind view entries location chain pointer) := by
  fun_induction follow kind view entries location chain pointer with
  | case1 chain pointer e hname => exact (componentName_neverUnmapped kind pointer).passOn hname
  | case2 => exact .error rfl
  | case3 => exact .error rfl
  | case4 => exact .ok _
  | case5 _ _ _ _ _ _ _ _ _ ih => exact ih

namespace Components

variable {c : Components}

theorem schemaAt_neverUnmapped (pointer : String) : NeverUnmapped (c.schemaAt pointer) := by
  refine (componentName_neverUnmapped _ _).bind fun name _ => FailsOnly.bind ?_ fun _ _ => .ok _
  unfold schema
  split
  · exact .ok _
  · exact .error rfl

theorem target_neverUnmapped (node : SchemaNode) : NeverUnmapped (c.target node) := by
  cases node with
  | inline s => exact .ok s
  | ref pointer => exact follow_neverUnmapped _ _ _ _ _ _

theorem walk_neverUnmapped (chain : Chain) (location : String) (node : SchemaNode) :
    NeverUnmapped (c.walk chain location node) := by
  fun_induction c.walk chain location node with
  | case1 _ _ _ _ hname => exact (componentName_neverUnmapped _ _).passOn hname
  | case2 => exact .error rfl
  | case3 => exact .ok _
  | case4 => exact .error rfl
  | case5 _ _ _ _ _ _ _ _ _ ih => exact ih
  | case6 _ _ _ _ _ ih => exact ih
  | case7 => exact .ok _
  | case8 _ _ _ _ _ _ hw ih => exact ih.passOn hw
  | case9 _ _ _ _ _ _ htarget => exact (target_neverUnmapped _).passOn htarget
  | case10 => exact .ok _
  | case11 => exact .ok _
  | case12 _ _ _ _ _ _ hw ih => exact ih.passOn hw
  | case13 _ _ _ _ _ _ htarget => exact (target_neverUnmapped _).passOn htarget
  | case14 => exact .ok _
  | case15 => exact .ok _

theorem flattenAll_neverUnmapped {chain : Chain} {location : String} {branches : List SchemaNode}
    (h : ∀ b ∈ branches, ∀ e ∈ (c.flatten location chain b).stop, e.isUnmapped = false) :
    ∀ e ∈ (c.flattenAll location chain branches).stop, e.isUnmapped = false := by
  induction branches with
  | nil =>
    rw [flattenAll]
    rintro _ ⟨⟩
  | cons b rest ih =>
    obtain ⟨hb, hrest⟩ := List.forall_mem_cons.mp h
    intro e he
    rw [flattenAll] at he
    rcases stop_append he with he | he
    · exact hb e he
    · exact ih hrest e he

theorem flatten_neverUnmapped (chain : Chain) (location : String) (node : SchemaNode) :
    ∀ e ∈ (c.flatten location chain node).stop, e.isUnmapped = false := by
  induction chain, node using c.induction with
  | ref chain pointer ih =>
    rw [flatten_ref]
    split
    next e hname =>
      rintro _ ⟨⟩
      exact componentName_neverUnmapped _ _ e hname
    next name _ =>
    split
    · rintro _ ⟨⟩
      rfl
    next target hfound =>
    split
    · rintro _ ⟨⟩
      rfl
    next hfresh => exact ih name target hfound hfresh
  | inline chain s ih =>
    rw [flatten_inline]
    intro e he
    rcases stop_append he with he | he
    · exact flattenAll_neverUnmapped (fun b hb => ih b
        (SchemaBody.mem_parts.mpr (.inr (.inr (.inr (.inl hb)))))) e he
    · cases he

theorem merge_neverUnmapped (location : String) (s : Schema) :
    NeverUnmapped (c.merge location s) := by
  refine FailsOnly.bind (fun e he => ?_) fun merged _ => ?_
  · obtain ⟨fault, rfl⟩ := Merged.exists_fault_of_addAll he
    rfl
  · split
    next e he => exact .error (flatten_neverUnmapped .empty location (.inline s) e he)
    next => exact .ok merged

theorem checkAncestors_neverUnmapped (location : String) (chain : Chain) (pointer : String) :
    NeverUnmapped (c.checkAncestors location chain pointer) := by
  fun_induction c.checkAncestors location chain pointer with
  | case1 _ _ _ hname => exact (componentName_neverUnmapped _ _).passOn hname
  | case2 => exact .error rfl
  | case3 => exact .error rfl
  | case4 => exact .ok _
  | case5 _ _ _ _ _ _ _ _ _ ih => exact ih

theorem parentOf_neverUnmapped (origin location : String) (s : Schema) :
    NeverUnmapped (c.parentOf origin s location) := by
  unfold parentOf
  split
  · exact .ok none
  · refine (schemaAt_neverUnmapped _).bind fun target _ => ?_
    obtain ⟨name, parent⟩ := target
    dsimp only
    split
    · exact (checkAncestors_neverUnmapped _ _ _).bind fun _ _ => .ok _
    · exact .ok none

theorem modelForm_neverUnmapped (origin location : String) (s : Schema) :
    NeverUnmapped (c.modelForm origin location s) := by
  unfold modelForm
  split
  · exact .ok _
  split
  · exact .ok _
  split
  · unfold composedForm
    split
    · exact .ok _
    · refine (parentOf_neverUnmapped _ _ _).bind fun parent _ => ?_
      split
      · exact .ok _
      · exact (merge_neverUnmapped _ _).bind fun merged _ => .ok _
  split
  · exact .ok _
  · exact .ok _

theorem componentForm_neverUnmapped (name : String) (node : SchemaNode) :
    NeverUnmapped (c.componentForm name node) := by
  cases node with
  | inline s => exact modelForm_neverUnmapped _ _ s
  | ref pointer => exact .ok _

end Components

theorem Referable.get_neverUnmapped {α β : Type} (kind : String) (view : β → Referable α)
    (entries : List (String × β)) (location : String → Option String) (a : Referable α) :
    NeverUnmapped (a.get fun pointer =>
      follow kind view entries (location pointer) .empty pointer) := by
  cases a with
  | inline a => exact .ok a
  | ref pointer => exact follow_neverUnmapped _ _ _ _ _ _

namespace Resolver

theorem discriminator_neverUnmapped (branches : List SchemaNode) (d : ContractDiscriminator) :
    NeverUnmapped (Resolver.discriminator branches d) := by
  unfold Resolver.discriminator
  split
  · refine (FailsOnly.mapM fun pointer _ => ?_).bind fun mapping _ => .ok _
    exact (componentName_neverUnmapped _ _).bind fun _ _ => .ok _
  · refine (FailsOnly.mapM fun entry _ => FailsOnly.bind ?_ fun _ _ => .ok _).bind
      fun mapping _ => .ok _
    unfold mappingTarget
    split
    · exact (componentName_neverUnmapped _ _).bind fun _ _ => .ok _
    · exact .ok _

end Resolver

/-! ### The types that are looked up -/

namespace SchemaBody

variable {s : Schema} {type : SchemaType}

/-- A schema lists a type beside others, and this is what counts in it. -/
def ListsType (s : Schema) (type : SchemaType) : Prop :=
  ∃ types, s.form = .alternatives types ∧ type ∈ types

/-- The form of a schema that has neither an object nor an array, nor branches, is that of its
type. -/
theorem typeForm_of_form {form : SchemaForm} (h : s.form = form)
    (hform : (∃ types, form = .alternatives types) ∨ ∃ type, form = .primitive type) :
    s.typeForm = form := by
  rcases s.form_cases with hs | hs | hs | hs | ⟨branch, -, hs⟩ | hs <;> rw [h] at hs
  case inr.inr.inr.inr.inr => exact hs.symm
  all_goals rcases hform with ⟨_, rfl⟩ | ⟨_, rfl⟩ <;> cases hs

theorem mapForm_ne (s : Schema) : (∀ types, s.mapForm ≠ .alternatives types) ∧
    ∀ type, s.mapForm ≠ .primitive type := by
  rcases s.mapForm_cases with h | h | ⟨values, -, h⟩ <;> simp [h]

/-- The only types that are listed beside others are those that the schema says, without `null`. -/
theorem ListsType.ne_null (h : s.ListsType type) : type ≠ .null := by
  obtain ⟨types, hform, htype⟩ := h
  have hlisted := typeForm_of_form hform (.inl ⟨types, rfl⟩)
  rw [typeForm] at hlisted
  split at hlisted
  next hmany =>
    cases hlisted
    rw [typeAlternatives] at hmany htype
    split at hmany
    · simp at hmany
    · simp at hmany
    next listed hs =>
      rw [hs] at htype
      simpa using (List.mem_filter.mp htype).2
  next =>
    split at hlisted <;> try cases hlisted
    · exact absurd hlisted (s.mapForm_ne.1 _)
    · split at hlisted <;> try cases hlisted
      split at hlisted <;> try cases hlisted
      exact absurd hlisted (s.mapForm_ne.1 _)

/-- A schema that is a primitive says a primitive type. -/
theorem isPrimitive_of_form (h : s.form = .primitive type) : type.isPrimitive = true := by
  have hprimitive := typeForm_of_form h (.inr ⟨type, rfl⟩)
  rw [typeForm] at hprimitive
  split at hprimitive
  · cases hprimitive
  next =>
    split at hprimitive
    · cases hprimitive
    · exact absurd hprimitive (s.mapForm_ne.2 _)
    · cases hprimitive
    next harray hobject hnull _ =>
      cases hprimitive
      cases type with
      | array => exact (harray rfl).elim
      | object => exact (hobject rfl).elim
      | null => exact (hnull rfl).elim
      | _ => rfl
    · split at hprimitive
      · cases hprimitive
      split at hprimitive
      · exact absurd hprimitive (s.mapForm_ne.2 _)
      · cases hprimitive

end SchemaBody

/-! ### The errors of a resolver -/

namespace Resolver

open Resolving

/-- Errors that a resolver may report at the schemas in a closed set of positions: any but those
about the table, and those that say that it has no row for a primitive type, or for a type that one
of the schemas lists beside others. -/
structure Lacks (r : Resolver) (P : SchemaNode → Prop) (F : ResolveError → Prop) : Prop where
  closed : r.components.Closed P
  other : ∀ e, e.isUnmapped = false → F e
  primitive : ∀ location type format, r.profile.lookup type format = none →
    type.isPrimitive = true → F (.unmapped location r.profile.id type format)
  listed : ∀ location s type, P (.inline s) → s.ListsType type →
    r.profile.lookup type s.format = none → F (.unmapped location r.profile.id type s.format)

/-- A way to resolve a schema that reports no other errors. -/
def LacksShape (P : SchemaNode → Prop) (F : ResolveError → Prop) (shape : Shape) : Prop :=
  ∀ usage node, P node → ReportsOnly F (shape usage node)

namespace Lacks

variable {r : Resolver} {P : SchemaNode → Prop} {F : ResolveError → Prop} (h : r.Lacks P F)
  {shape : Shape} {s : Schema} {node : SchemaNode}

include h

theorem lift {α : Type} {e : Except ResolveError α} (he : NeverUnmapped e) :
    ReportsOnly F (liftM e : Resolving α) := .lift (he.weaken h.other)

/-! #### Types -/

theorem enumType (s : Schema) (location : String) :
    FailsOnly F (r.profile.enumType r.flags s location) := by
  unfold Profile.enumType
  have htypeName : FailsOnly F (r.profile.memberTypeName s location) := by
    unfold Profile.memberTypeName
    split
    next type _ =>
      split
      next hprimitive =>
        unfold Profile.primitive
        split
        · exact .ok _
        next hnone => exact .error (h.primitive _ _ _ hnone hprimitive)
      · exact .ok _
    · exact .ok _
  refine htypeName.bind fun typeName _ => (FailsOnly.mapM fun entry _ => ?_).bind
    fun members _ => ?_
  · unfold Profile.member
    split
    · exact .ok _
    · exact .error (h.other _ rfl)
  · split
    · exact .ok _
    · exact .ok _

/-- A type that a schema lists beside others is looked up with the format of the schema. -/
theorem alternatives {types : List SchemaType} (hs : P (.inline s))
    (hform : s.form = .alternatives types) (location : String) :
    FailsOnly F (types.mapM fun t => r.profile.primitive t s.format location) := by
  refine .mapM fun type htype => ?_
  unfold Profile.primitive
  split
  · exact .ok _
  next hnone => exact .error (h.listed _ s type hs ⟨types, hform, htype⟩ hnone)

theorem primitiveForm {type : SchemaType} (hform : s.form = .primitive type) (location : String) :
    FailsOnly F (r.profile.primitive type s.format location) := by
  unfold Profile.primitive
  split
  · exact .ok _
  next hnone => exact .error (h.primitive _ _ _ hnone (SchemaBody.isPrimitive_of_form hform))

/-! #### Models -/

section Shapes

variable (hshape : LacksShape P F shape)

include hshape

theorem unionType (hs : P (.inline s)) (usage : Usage) :
    ReportsOnly F (Resolver.unionType shape usage s) := by
  have hbranches : ∀ node ∈ (unionBranches s).2, P node := h.closed.unionBranches hs
  rw [Resolver.unionType]
  rcases hdef : unionBranches s with ⟨keyword, branches⟩
  rw [hdef] at hbranches
  refine (ReportsOnly.mapM fun b hb =>
    hshape _ b.1 (hbranches b.1 (List.fst_mem_of_mem_zipIdx hb))).bind fun members => ?_
  exact (ReportsOnly.liftOption fun d =>
    (discriminator_neverUnmapped branches d).weaken h.other).bind fun d => .pure _

theorem resolveWith (hnode : P node) (usage : Usage) :
    ReportsOnly F (r.resolveWith shape usage node) :=
  (hshape usage node hnode).bind fun _ =>
    (h.lift (Components.target_neverUnmapped node)).bind fun _ => .pure _

theorem field (owner location : String) {q : Property} (hq : P q.node) :
    ReportsOnly F (r.field shape owner location q) :=
  (h.resolveWith hshape hq _).bind fun _ =>
    (h.lift (Components.target_neverUnmapped q.node)).bind fun _ => .pure _

/-- The model of a form whose parts stand among the positions. -/
theorem modelOf {form : ModelForm} (hform : form.Within P) (base : Model)
    (owner location : String) : ReportsOnly F (r.modelOf shape base owner location form) := by
  cases form with
  | enum s => exact (ReportsOnly.lift (h.enumType s location)).bind fun e => .pure _
  | union s => exact (h.unionType hshape hform _).bind fun u => .pure _
  | synonym node => exact (h.resolveWith hshape hform _).bind fun t => .pure _
  | object parent properties d =>
    have hfields : ReportsOnly F (r.fields shape owner location properties) :=
      (ReportsOnly.mapM fun q hq => h.field hshape owner location (hform.1 q hq)).bind
        fun asked => .pure _
    exact hfields.bind fun fields => (ReportsOnly.liftOption fun d =>
      (discriminator_neverUnmapped [] d).weaken h.other).bind fun d => .pure _

theorem buildModel (hs : P (.inline s)) (name : Name) (location : String) :
    ReportsOnly F (r.buildModel shape name s location) := by
  rw [r.buildModel_eq]
  exact .liftBind ((Components.modelForm_neverUnmapped _ _ s).weaken h.other) fun form hform =>
    h.modelOf hshape (h.closed.modelForm hs hform) _ _ _

theorem promote (hs : P (.inline s)) (usage : Usage) : ReportsOnly F (r.promote shape usage s) :=
  (ReportsOnly.claim _).bind fun _ => (h.buildModel hshape hs _ _).bind fun m =>
    (ReportsOnly.push m).bind fun _ => .pure _

theorem leafType (usage : Usage) {l : Leaf} (hl : ∀ s, l = .schema s → P (.inline s)) :
    ReportsOnly F (r.leafType shape usage l) := by
  cases l with
  | model name => exact .pure _
  | any => exact .pure _
  | schema s =>
    have hs : P (.inline s) := hl s rfl
    unfold Resolver.leafType
    dsimp only
    split
    · exact (ReportsOnly.lift (h.enumType s usage.location)).bind fun e => .pure _
    · exact (h.unionType hshape hs usage).bind fun u => .pure _
    · exact (h.promote hshape hs usage).bind fun name => .pure _
    · exact (h.promote hshape hs usage).bind fun name => .pure _
    next types hform =>
      exact (ReportsOnly.lift (h.alternatives hs hform usage.location)).bind fun ts => .pure _
    next type hform => exact .lift (h.primitiveForm hform usage.location)
    · exact .pure _

end Shapes

/-! #### The shape of a schema -/

theorem lacksShape_shapeByWalk {inner : Leaf → Shape} (hs : ∀ l, LacksShape P F (inner l)) :
    LacksShape P F (r.shapeByWalk inner) := fun usage node hnode =>
  .liftBind ((Components.walk_neverUnmapped .empty usage.location node).weaken h.other)
    fun w hw => (h.leafType (hs w.leaf) _ (h.closed.leaf_of_walk hw hnode)).bind fun _ => .pure _

theorem lacksShape_shapeWithin : ∀ n, LacksShape P F (r.shapeWithin n)
  | 0 => fun _ _ _ => .throw (h.other _ rfl)
  | n + 1 => h.lacksShape_shapeByWalk fun _ => lacksShape_shapeWithin n

theorem lacksShape_shape : LacksShape P F r.shape :=
  h.lacksShape_shapeByWalk fun l => h.lacksShape_shapeWithin (r.components.size + l.size)

theorem resolve (hnode : P node) (usage : Usage) : ReportsOnly F (r.resolve usage node) :=
  h.resolveWith h.lacksShape_shape hnode usage

/-! #### The answers of a resolver -/

theorem component (name : String) (hnode : P node) : ReportsOnly F (r.component name node) := by
  rw [r.component_eq]
  exact .liftBind ((Components.componentForm_neverUnmapped name node).weaken h.other)
    fun form hform => h.modelOf h.lacksShape_shape (h.closed.componentForm hnode hform) _ _ _

theorem parameter (owner location : String) {q : Parameter} (hq : ∀ node ∈ q.nodes, P node) :
    ReportsOnly F (r.parameter owner location q) := by
  rw [Resolver.parameter]
  dsimp only
  split
  next node hnode =>
    simp only [pure_bind]
    have hin : P node := hq node (by rw [Parameter.nodes, hnode]; exact List.mem_singleton.mpr rfl)
    exact (h.resolve hin _).bind fun t =>
      (h.lift (Components.target_neverUnmapped node)).bind fun target => .pure _
  next =>
    simp only [pure_bind]
    exact .pure _

theorem parameters (owner location : String) {item : PathItem} {op : Operation}
    (hnodes : ∀ node ∈ nodesOfValues Parameter.nodes (item.parameters ++ op.parameters), P node) :
    ReportsOnly F (r.parameters owner location item op) := by
  rw [Resolver.parameters]
  refine .liftBind ((FailsOnly.mapM fun q _ =>
    Referable.get_neverUnmapped _ _ _ some q).weaken h.other) fun declared hdeclared => ?_
  refine (ReportsOnly.mapM fun q hq => h.parameter owner location ?_).bind fun _ => .pure _
  obtain ⟨q', hq', hget⟩ := exists_of_forall₂ (forall₂_of_mapM_ok hdeclared)
    (mem_of_mem_mergeParameters hq)
  refine h.closed.parameter_of_get ?_ hget
  rintro a rfl node hnode
  exact hnodes node (mem_nodesOfValues.mpr ⟨a, hq', hnode⟩)

theorem requestBody (owner location : String) {body : Referable RequestBody}
    (hbody : ∀ a, body = .inline a → ∀ node ∈ a.nodes, P node) :
    ReportsOnly F (r.requestBody owner location body) := by
  rw [Resolver.requestBody]
  refine .liftBind ((Referable.get_neverUnmapped _ _ _ some body).weaken h.other) fun b hb => ?_
  have hnodes : ∀ node ∈ b.nodes, P node := h.closed.requestBody_of_get hbody hb
  split
  · exact .pure none
  next contentType media hmedia =>
    dsimp only
    split
    next node hnode =>
      exact (h.resolve (hnodes node (Content.mem_nodes_of_preferredMedia hmedia hnode)) _).bind
        fun t => .pure _
    · rw [pure_bind]
      exact .pure _

theorem responseOf (owner location : String) {op : Operation}
    (hnodes : ∀ node ∈ nodesOfValues Response.nodes (op.responses.map Prod.snd), P node) :
    ReportsOnly F (r.responseOf owner location op) := by
  rw [Resolver.responseOf]
  split
  · exact .pure _
  next status response hsuccess =>
  refine .liftBind ((Referable.get_neverUnmapped _ _ _ some response).weaken h.other)
    fun response' hresponse => ?_
  have hin : ∀ node ∈ response'.nodes, P node := by
    refine h.closed.response_of_get ?_ hresponse
    rintro a rfl node hnode
    exact hnodes node (mem_nodesOfValues.mpr
      ⟨a, List.mem_map_of_mem (mem_of_successResponse hsuccess), hnode⟩)
  split
  · exact .pure _
  next node hnode =>
    obtain ⟨media, hmedia, hnode⟩ := Option.bind_eq_some_iff.mp hnode
    exact (h.resolve (hin node (Content.mem_nodes_of_preferredMedia hmedia hnode)) _).bind
      fun t => .pure _

theorem operation {e : Endpoint} (hnodes : ∀ node ∈ e.nodes, P node) :
    ReportsOnly F (r.operation e) := by
  simp only [Endpoint.nodes, List.forall_mem_append] at hnodes
  obtain ⟨⟨hparameters, hbody⟩, hresponses⟩ := hnodes
  rw [Resolver.operation]
  dsimp only
  refine (h.parameters _ _ hparameters).bind fun ps => ?_
  split
  next body hdeclared =>
    refine (h.requestBody _ _ ?_).bind fun body' =>
      (h.responseOf _ _ hresponses).bind fun response => .pure _
    rintro a rfl node hnode
    exact hbody node (mem_nodesOfValues.mpr ⟨a, Option.mem_toList.mpr hdeclared, hnode⟩)
  · rw [pure_bind]
    exact (h.responseOf _ _ hresponses).bind fun response => .pure _

end Lacks

end Resolver

end ApiModel
