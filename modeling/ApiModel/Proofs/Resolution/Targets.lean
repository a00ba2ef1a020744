import ApiModel.Proofs.Resolution.Collecting
import ApiModel.Proofs.Resolution.ModelForm
import ApiModel.Proofs.Resolution.Standing

/-!
# The targets of discriminators

A discriminator maps values to models. Where the contract gives no mapping, the targets are the
branches that are pointers; these have been looked up when the branches were resolved, so they are
named schemas. Where the contract gives one, a target is what it writes, which is not looked up.

So all targets that a resolver makes are names of named schemas, or are written in a mapping of a
schema that the resolver meets. It meets no schema outside of a closed set of positions.

## Main definitions

* `ContractDiscriminator.Maps`: a target that a mapping writes.
* `Resolver.Aims`: what may be a target, for the schemas in a closed set of positions.

## Main results

* `Resolver.maps_or_named_of_discriminator`: where a target comes from.
* `Resolver.Aims.run_component`, `Resolver.Aims.run_operation`: the targets in the answers of a
  resolver.
-/

namespace ApiModel

/-- A mapping of a contract sends some value to the model of a name. -/
def ContractDiscriminator.Maps (d : ContractDiscriminator) (target : String) : Prop :=
  ∃ e ∈ d.mapping, Resolver.mappingTarget e.2 = .ok target

/-- A position that is a pointer names one of the schemas. -/
def Components.Names (c : Components) (node : SchemaNode) : Prop :=
  ∀ pointer, node = .ref pointer →
    ∃ name ∈ c.schemaNames, componentName "schemas" pointer = .ok name

/-- A position from which there is a way names a schema, if it is a pointer. -/
theorem Components.names_of_walk {c : Components} {chain : Chain} {location : String}
    {node : SchemaNode} {w : Walk} (h : c.walk chain location node = .ok w) : c.Names node := by
  rintro pointer rfl
  rw [walk_ref] at h
  split at h
  · cases h
  next name hname =>
  split at h
  · cases h
  next target hfound => exact ⟨name, mem_keys_of_lookup_eq_some hfound, hname⟩

/-! ### The targets of what is built -/

theorem ResolvedType.targets_union (target : TargetType) (u : UnionType ResolvedType) :
    (ofTarget target (.union u)).targets =
      discriminatorTargets u.discriminator ++ u.members.flatMap targets := by
  have hkind : (TypeKind.union u).discriminatorTargets = discriminatorTargets u.discriminator := by
    obtain ⟨members, _ | d⟩ := u <;> simp [TypeKind.discriminatorTargets, discriminatorTargets]
  rw [targets, collect_ofTarget, hkind]
  rfl

/-- What holds of the targets of a model holds of those in its types, of those of its union, and of
its own. -/
theorem Model.forall_targets_iff {T : String → Prop} {m : Model} :
    (∀ n ∈ m.targets, T n) ↔ (∀ t ∈ m.referencedTypes, ∀ n ∈ t.targets, T n) ∧
      (∀ n ∈ discriminatorTargets m.shape.discriminator?, T n) ∧
        ∀ n ∈ discriminatorTargets m.discriminator, T n := by
  simp only [targets, List.forall_mem_append, List.forall_mem_flatMap, and_assoc]

/-- The targets in an operation are those in what it exchanges: what it returns in code has no
others. -/
theorem ApiOperation.forall_targets {T : String → Prop} {op : ApiOperation} {p : Profile}
    {flags : Flags} (hparameters : ∀ a ∈ op.parameters, ∀ n ∈ a.type.targets, T n)
    (hbody : ∀ b ∈ op.requestBody, ∀ n ∈ b.type.targets, T n)
    (hresponse : ∀ t, op.response = .content t → ∀ n ∈ t.targets, T n)
    (hshape : op.shape = p.returnShape op.response flags) : ∀ n ∈ op.targets, T n := by
  intro n hn
  obtain ⟨t, ht, hn⟩ := List.mem_flatMap.mp hn
  simp only [types, referencedTypes, List.mem_append, List.mem_map, Option.mem_toList,
    List.mem_singleton] at ht
  rcases ht with ((⟨a, ha, rfl⟩ | ⟨b, hb, rfl⟩) | rfl) | ht
  · exact hparameters a ha n hn
  · exact hbody b hb n hn
  · rw [hshape] at hn
    obtain ⟨t, ht, hn⟩ := hollow_discriminatorTargets.exists_of_mem_returnType _ _ _ hn
    exact hresponse t ht n hn
  · split at ht
    next t' hcontent =>
      obtain rfl := List.mem_singleton.mp ht
      exact hresponse t hcontent n hn
    next => cases ht

namespace Resolver

@[simp] theorem targets_any (r : Resolver) : r.any.targets = [] :=
  r.collect_any hollow_discriminatorTargets

/-! ### Where a target comes from -/

/-- A target is written in the mapping, or there is none and the target is named by a branch. -/
theorem maps_or_named_of_discriminator {branches : List SchemaNode} {d : ContractDiscriminator}
    {d' : Discriminator} (h : Resolver.discriminator branches d = .ok d') {n : String}
    (hn : n ∈ d'.mapping.map Prod.snd) :
    d.Maps n ∨ ∃ pointer name, .ref pointer ∈ branches ∧
      componentName "schemas" pointer = .ok name ∧ n = (Name.ofText name).pascalCase := by
  simp only [Resolver.discriminator, bind, Except.bind, pure, Except.pure] at h
  split at h
  · split at h <;> cases h
    next hmapping =>
    obtain ⟨e, he, rfl⟩ := List.mem_map.mp hn
    obtain ⟨pointer, hpointer, he⟩ := exists_of_forall₂ (forall₂_of_mapM_ok hmapping) he
    obtain ⟨branch, hbranch, hpointer⟩ := List.mem_filterMap.mp hpointer
    cases branch with
    | inline s => cases hpointer
    | ref named =>
      cases hpointer
      simp only [mappingOfPointer, bind, Except.bind, pure, Except.pure] at he
      split at he <;> cases he
      next name hname => exact .inr ⟨pointer, name, hbranch, hname, rfl⟩
  · split at h <;> cases h
    next hmapping =>
    obtain ⟨e, he, rfl⟩ := List.mem_map.mp hn
    obtain ⟨entry, hentry, he⟩ := exists_of_forall₂ (forall₂_of_mapM_ok hmapping) he
    split at he <;> cases he
    next target htarget => exact .inl ⟨entry, hentry, htarget⟩

/-! ### The parts of a resolver -/

open Resolving

/-- What may be a target, for the schemas in a closed set of positions: the names of the named
schemas, and what the mappings write. -/
structure Aims (r : Resolver) (P : SchemaNode → Prop) (T : String → Prop) : Prop where
  closed : r.components.Closed P
  named : ∀ n ∈ r.components.modelNames, T n
  mapped : ∀ d, ContractDiscriminator.Within P d → ∀ n, d.Maps n → T n

namespace Aims

variable {r : Resolver} {P : SchemaNode → Prop} {T : String → Prop}

/-- The targets of promoted models, when all targets are as they should be. -/
abbrev Yields (_ : r.Aims P T) {α : Type} (x : Resolving α) (Q : α → Prop) : Prop :=
  Resolving.Yields (fun m => ∀ n ∈ m.targets, T n) x Q

/-- A way to resolve a schema makes targets as they should be, and looks up a pointer. -/
def AimsShape (h : r.Aims P T) (shape : Shape) : Prop :=
  ∀ usage node, P node →
    h.Yields (shape usage node) fun t => (∀ n ∈ t.targets, T n) ∧ r.components.Names node

variable (h : r.Aims P T) {shape : Shape} {s : Schema} {node : SchemaNode}

include h

/-- The targets of a discriminator, when the branches that are pointers have been looked up. -/
theorem discriminator {branches : List SchemaNode} {d : ContractDiscriminator}
    {d' : Discriminator} (hd : d.Within P) (hbranches : ∀ node ∈ branches, r.components.Names node)
    (hok : Resolver.discriminator branches d = .ok d') : ∀ n ∈ d'.mapping.map Prod.snd, T n := by
  intro n hn
  rcases maps_or_named_of_discriminator hok hn with hmaps | ⟨pointer, name, hmem, hname, rfl⟩
  · exact h.mapped d hd n hmaps
  · obtain ⟨name', hname', heq⟩ := hbranches _ hmem pointer rfl
    obtain rfl := Except.ok.inj (hname.symm.trans heq)
    exact h.named _ (List.mem_map_of_mem hname')

/-- The targets of a discriminator that there need not be. -/
theorem discriminatorTargets {branches : List SchemaNode} {d : Option ContractDiscriminator}
    (hd : ∀ declared ∈ d, declared.Within P)
    (hbranches : ∀ node ∈ branches, r.components.Names node) :
    h.Yields
      (d.mapM fun d => (Resolver.discriminator branches d : Except ResolveError Discriminator))
      fun d' => ∀ n ∈ ApiModel.discriminatorTargets d', T n := by
  refine Resolving.Yields.liftOption.weaken fun d' hd' n hn => ?_
  obtain ⟨made, hmade, hn⟩ := List.mem_flatMap.mp hn
  obtain ⟨declared, hdeclared, hok⟩ := hd' made (Option.mem_toList.mp hmade)
  exact h.discriminator (hd declared hdeclared) hbranches hok n hn

section Shapes

variable (hshape : h.AimsShape shape)

include hshape

theorem unionType (hs : P (.inline s)) (usage : Usage) :
    h.Yields (Resolver.unionType shape usage s) fun u =>
      (∀ t ∈ u.members, ∀ n ∈ t.targets, T n) ∧
        ∀ n ∈ ApiModel.discriminatorTargets u.discriminator, T n := by
  rw [Resolver.unionType]
  have hbranches : ∀ node ∈ (unionBranches s).2, P node := h.closed.unionBranches hs
  rcases hdef : unionBranches s with ⟨keyword, branches⟩
  rw [hdef] at hbranches
  refine (Resolving.Yields.mapM fun b hb =>
    hshape _ b.1 (hbranches b.1 (List.fst_mem_of_mem_zipIdx hb))).bind fun members hmembers => ?_
  -- every branch has a member by now, so those that are pointers have been looked up
  have hnames : ∀ node ∈ branches, r.components.Names node := by
    intro node hnode
    rw [← List.zipIdx_map_fst 0 branches] at hnode
    obtain ⟨b, hb, rfl⟩ := List.mem_map.mp hnode
    obtain ⟨t, -, ht⟩ := exists_of_forall₂ hmembers.flip hb
    exact ht.2
  refine (h.discriminatorTargets (fun d hd => ⟨s, hs, hd⟩) hnames).bind fun d hd =>
    .pure ⟨fun t ht => ?_, hd⟩
  obtain ⟨b, -, hb⟩ := exists_of_forall₂ hmembers ht
  exact hb.1

theorem resolveWith (hnode : P node) (usage : Usage) :
    h.Yields (r.resolveWith shape usage node) fun t => ∀ n ∈ t.targets, T n := by
  refine (hshape usage node hnode).bind fun t ht => ?_
  refine Resolving.Yields.liftOk.bind fun target _ => .pure ?_
  exact forall_collect_finish usage target t ht.1

theorem field (owner location : String) {q : Property} (hq : P q.node) :
    h.Yields (r.field shape owner location q) fun f => ∀ n ∈ f.type.targets, T n :=
  (h.resolveWith hshape hq _).bind fun _ ht =>
    Resolving.Yields.liftOk.bind fun _ _ => .pure ht

theorem fields (owner location : String) {properties : List Property}
    (hproperties : ∀ q ∈ properties, P q.node) :
    h.Yields (r.fields shape owner location properties) fun fields =>
      ∀ f ∈ fields, ∀ n ∈ f.type.targets, T n := by
  refine (Resolving.Yields.mapM fun q hq =>
    h.field hshape owner location (hproperties q hq)).bind fun asked hasked => .pure ?_
  intro f hf
  obtain ⟨f', hf', heq⟩ := exists_of_mem_numberFields hf
  obtain ⟨q, -, hq⟩ := exists_of_forall₂ hasked hf'
  rw [heq]
  exact hq

/-- The model of a form whose parts stand among the positions. -/
theorem modelOf {form : ModelForm} (hform : form.Within P) (name : Name)
    (description : Option String) (owner location : String) :
    h.Yields (r.modelOf shape { name, description } owner location form) fun m =>
      ∀ n ∈ m.targets, T n := by
  cases form with
  | enum s =>
    exact Resolving.Yields.liftOk.bind fun e _ => .pure (List.forall_mem_nil _)
  | union s =>
    refine (h.unionType hshape hform _).bind fun u hu => .pure ?_
    refine Model.forall_targets_iff.mpr ⟨?_, hu.2, hu.2⟩
    simpa [Model.referencedTypes, Model.shapeTypes] using hu.1
  | synonym node =>
    refine (h.resolveWith hshape hform _).bind fun t ht => .pure ?_
    refine Model.forall_targets_iff.mpr ⟨?_, List.forall_mem_nil _, List.forall_mem_nil _⟩
    simpa [Model.referencedTypes, Model.shapeTypes] using ht
  | object parent properties d =>
    obtain ⟨hproperties, hd⟩ := hform
    refine (h.fields hshape _ _ hproperties).bind fun fields hfields => ?_
    refine (h.discriminatorTargets hd (List.forall_mem_nil _)).bind fun d' hd' => .pure ?_
    refine Model.forall_targets_iff.mpr ⟨?_, List.forall_mem_nil _, hd'⟩
    simpa [Model.referencedTypes, Model.shapeTypes] using hfields

theorem buildModel (hs : P (.inline s)) (name : Name) (location : String) :
    h.Yields (r.buildModel shape name s location) fun m => ∀ n ∈ m.targets, T n := by
  rw [r.buildModel_eq]
  exact (Resolving.Yields.lift (Q := ModelForm.Within P) fun form hform =>
    h.closed.modelForm hs hform).bind fun form hform => h.modelOf hshape hform _ _ _ _

/-- A promoted model has targets as they should be. -/
theorem promote (hs : P (.inline s)) (usage : Usage) :
    h.Yields (r.promote shape usage s) fun _ => True :=
  (Resolving.Yields.claim _).bind fun _ _ =>
    (h.buildModel hshape hs _ _).bind fun _ hm =>
      (Resolving.Yields.push hm).bind fun _ _ => .pure trivial

theorem leafType (usage : Usage) {l : Leaf} (hl : ∀ s, l = .schema s → P (.inline s)) :
    h.Yields (r.leafType shape usage l) fun t => ∀ n ∈ t.targets, T n := by
  have hof (target : TargetType) (name : String) :
      ∀ n ∈ (ResolvedType.ofTarget target (.model name)).targets, T n := by
    simp [ResolvedType.targets, TypeKind.discriminatorTargets, TypeKind.parts]
  cases l with
  | model name => exact .pure (hof _ _)
  | any => exact .pure (by simp)
  | schema s =>
    have hs : P (.inline s) := hl s rfl
    unfold Resolver.leafType
    dsimp only
    split
    · exact Resolving.Yields.liftOk.bind fun e _ => .pure (List.forall_mem_nil _)
    · refine (h.unionType hshape hs usage).bind fun u hu => .pure ?_
      rw [ResolvedType.targets_union]
      exact List.forall_mem_append.mpr ⟨hu.2, List.forall_mem_flatMap.mpr hu.1⟩
    · exact (h.promote hshape hs usage).bind fun name _ => .pure (hof _ name)
    · exact (h.promote hshape hs usage).bind fun name _ => .pure (hof _ name)
    · refine (Resolving.Yields.lift (Q := fun ts => ∀ t ∈ ts, t.targets = [])
        fun ts hts t ht => ?_).bind fun ts hts => .pure ?_
      · obtain ⟨type, -, hok⟩ := exists_of_forall₂ (forall₂_of_mapM_ok hts) ht
        exact hollow_discriminatorTargets.collect_primitive hok
      · rw [ResolvedType.targets_union]
        refine List.forall_mem_append.mpr
          ⟨List.forall_mem_nil _, List.forall_mem_flatMap.mpr fun t ht => ?_⟩
        simp [hts t ht]
    · refine .lift fun t ht => ?_
      rw [ResolvedType.targets, hollow_discriminatorTargets.collect_primitive ht]
      exact List.forall_mem_nil _
    · exact .pure (by simp)

end Shapes

/-! ### The shape of a schema -/

theorem aimsShape_shapeByWalk {inner : Leaf → Shape} (hs : ∀ l, h.AimsShape (inner l)) :
    h.AimsShape (r.shapeByWalk inner) := by
  intro usage node hnode
  refine Resolving.Yields.liftOk.bind fun w hw => ?_
  refine (h.leafType (hs w.leaf) _ (h.closed.leaf_of_walk hw hnode)).bind fun t ht => .pure ?_
  refine ⟨?_, Components.names_of_walk hw⟩
  rw [ResolvedType.targets, hollow_discriminatorTargets.collect_walk]
  exact ht

theorem aimsShape_shapeWithin : ∀ k, h.AimsShape (r.shapeWithin k)
  | 0 => fun _ _ _ => .throw
  | k + 1 => h.aimsShape_shapeByWalk fun _ => aimsShape_shapeWithin k

theorem aimsShape_shape : h.AimsShape r.shape :=
  h.aimsShape_shapeByWalk fun l => h.aimsShape_shapeWithin (r.components.size + l.size)

theorem resolve (hnode : P node) (usage : Usage) :
    h.Yields (r.resolve usage node) fun t => ∀ n ∈ t.targets, T n :=
  h.resolveWith h.aimsShape_shape hnode usage

/-! ### The answers of a resolver -/

theorem component {name : String} (hnode : P node) :
    h.Yields (r.component name node) fun m => ∀ n ∈ m.targets, T n := by
  rw [r.component_eq]
  exact (Resolving.Yields.lift (Q := ModelForm.Within P) fun form hform =>
    h.closed.componentForm hnode hform).bind fun form hform =>
      h.modelOf h.aimsShape_shape hform _ _ _ _

theorem parameter (owner location : String) {q : Parameter} (hq : ∀ node ∈ q.nodes, P node) :
    h.Yields (r.parameter owner location q) fun a => ∀ n ∈ a.type.targets, T n := by
  rw [Resolver.parameter]
  dsimp only
  split
  next node hnode =>
    simp only [pure_bind]
    have hin : P node := hq node (by rw [Parameter.nodes, hnode]; exact List.mem_singleton.mpr rfl)
    exact (h.resolve hin _).bind fun t ht => Resolving.Yields.liftOk.bind fun _ _ => .pure ht
  next =>
    simp only [pure_bind]
    exact .pure (by simp)

theorem parameters (owner location : String) {item : PathItem} {op : Operation}
    (hnodes : ∀ node ∈ nodesOfValues Parameter.nodes (item.parameters ++ op.parameters), P node) :
    h.Yields (r.parameters owner location item op) fun as =>
      ∀ a ∈ as, ∀ n ∈ a.type.targets, T n := by
  refine (Resolving.Yields.lift (Q := fun declared => ∀ q ∈ declared, ∀ node ∈ q.nodes, P node)
    fun declared hdeclared q' hq' => ?_).bind fun declared hdeclared => ?_
  · obtain ⟨q, hq, hget⟩ := exists_of_forall₂ (forall₂_of_mapM_ok hdeclared) hq'
    refine h.closed.parameter_of_get ?_ hget
    rintro a rfl node hnode
    exact hnodes node (mem_nodesOfValues.mpr ⟨a, hq, hnode⟩)
  · refine (Resolving.Yields.mapM fun q hq => h.parameter owner location
      (hdeclared q (mem_of_mem_mergeParameters hq))).bind fun asked hasked => .pure ?_
    intro a ha
    obtain ⟨a', ha', heq⟩ := exists_of_mem_numberParameters ha
    obtain ⟨q, -, hq⟩ := exists_of_forall₂ hasked ha'
    rw [heq]
    exact hq

theorem requestBody (owner location : String) {body : Referable RequestBody}
    (hbody : ∀ a, body = .inline a → ∀ node ∈ a.nodes, P node) :
    h.Yields (r.requestBody owner location body) fun b =>
      ∀ a ∈ b, ∀ n ∈ a.type.targets, T n := by
  refine (Resolving.Yields.lift fun b hb =>
    h.closed.requestBody_of_get hbody hb).bind fun b hb => ?_
  split
  · exact .pure (by simp)
  next contentType media hmedia =>
    dsimp only
    split
    next node hnode =>
      have hin : P node := hb node (Content.mem_nodes_of_preferredMedia hmedia hnode)
      refine (h.resolve hin _).bind fun t ht => .pure ?_
      rintro a ⟨⟩
      exact ht
    next =>
      simp only [pure_bind]
      refine .pure ?_
      rintro a ⟨⟩
      simp

theorem responseOf (owner location : String) {op : Operation}
    (hnodes : ∀ node ∈ nodesOfValues Response.nodes (op.responses.map Prod.snd), P node) :
    h.Yields (r.responseOf owner location op) fun response =>
      ∀ t, response = .content t → ∀ n ∈ t.targets, T n := by
  rw [Resolver.responseOf]
  split
  · exact .pure (by simp)
  next status response hsuccess =>
  refine (Resolving.Yields.lift fun response' hresponse =>
    h.closed.response_of_get ?_ hresponse).bind fun response' hresponse => ?_
  · rintro a rfl node hnode
    exact hnodes node (mem_nodesOfValues.mpr
      ⟨a, List.mem_map_of_mem (mem_of_successResponse hsuccess), hnode⟩)
  split
  · exact .pure (by simp)
  next node hnode =>
    obtain ⟨media, hmedia, hnode⟩ := Option.bind_eq_some_iff.mp hnode
    have hin : P node := hresponse node (Content.mem_nodes_of_preferredMedia hmedia hnode)
    refine (h.resolve hin _).bind fun t ht => .pure ?_
    rintro t' ⟨⟩
    exact ht

/-- The targets in what an operation exchanges, and in what it returns in code. -/
theorem operation {e : Endpoint} (hnodes : ∀ node ∈ e.nodes, P node) :
    h.Yields (r.operation e) fun op => ∀ n ∈ op.targets, T n := by
  simp only [Endpoint.nodes, List.forall_mem_append] at hnodes
  obtain ⟨⟨hparameters, hbody⟩, hresponses⟩ := hnodes
  rw [Resolver.operation]
  dsimp only
  refine (h.parameters _ _ hparameters).bind fun parameters hparameters => ?_
  split
  next body hdeclared =>
    refine (h.requestBody _ _ ?_).bind fun body' hbody' => ?_
    · rintro a rfl node hnode
      exact hbody node (mem_nodesOfValues.mpr ⟨a, Option.mem_toList.mpr hdeclared, hnode⟩)
    exact (h.responseOf _ _ hresponses).bind fun response hresponse =>
      .pure (ApiOperation.forall_targets hparameters hbody' hresponse rfl)
  next =>
    rw [pure_bind]
    exact (h.responseOf _ _ hresponses).bind fun response hresponse =>
      .pure (ApiOperation.forall_targets hparameters (by simp) hresponse rfl)

/-! ### With nothing promoted before -/

/-- The targets in the model of a named schema and in the models that it promotes. -/
theorem run_component {name : String} {m : Model} {promoted : List Model} (hnode : P node)
    (hrun : r.run (r.component name node) = .ok (m, promoted)) :
    (∀ m' ∈ promoted, ∀ n ∈ m'.targets, T n) ∧ ∀ n ∈ m.targets, T n :=
  (h.component hnode).of_run hrun

/-- The targets in an operation and in the models that it promotes. -/
theorem run_operation {e : Endpoint} {op : ApiOperation} {promoted : List Model}
    (hnodes : ∀ node ∈ e.nodes, P node) (hrun : r.run (r.operation e) = .ok (op, promoted)) :
    (∀ m ∈ promoted, ∀ n ∈ m.targets, T n) ∧ ∀ n ∈ op.targets, T n :=
  (h.operation hnodes).of_run hrun

end Aims

end Resolver

end ApiModel
