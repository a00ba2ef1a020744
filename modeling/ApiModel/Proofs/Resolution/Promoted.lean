import ApiModel.Proofs.Resolution.Parameters
import ApiModel.Proofs.Resolution.Relocating
import ApiModel.Proofs.Resolution.Standing

/-!
# Which schemas are promoted

A schema that needs a model and has no name gets one where it is used. Which schemas these are can
be read off the contract: the way from a position leads to a leaf; at a union its branches follow,
and at a schema that needs a model the parts of the form that the schema takes. The models of the
schemas inside are finished first. So the contract alone determines the schemas that are promoted
where some positions are resolved, and their order, and a resolver that answers has built one model
for each of them.

## Main definitions

* `ModelForm.nodes`: the positions in a form.
* `Components.Promotes`: the schemas that are promoted where positions are resolved.
* `Endpoint.Exchanges`: the positions at which an operation is resolved.
* `Resolver.ModelsOf`: models that are promoted for schemas.
* `Resolver.Adds`: a resolving promotes models for schemas.

## Main results

* `Components.Promotes.unique`: the contract determines which schemas are promoted.
* `Components.Promotes.within`: they stand in every closed set with the positions.
* `Resolver.modelsOf_of_component`, `Resolver.modelsOf_of_operation`: the models that a named schema
  or an operation promotes.
-/

namespace ApiModel

/-! ### What the contract asks for -/

/-- The positions in a form, in the order in which they are resolved. -/
def ModelForm.nodes : ModelForm → List SchemaNode
  | enum _ => []
  | union s => (Resolver.unionBranches s).2
  | synonym node => [node]
  | object _ properties _ => properties.map Property.node

/-- Nothing is resolved at a leaf. -/
def Leaf.IsPlain (l : Leaf) : Prop :=
  ∀ s, l = .schema s → s.form ≠ .union ∧ s.form ≠ .composed ∧ s.form ≠ .object

theorem Leaf.IsPlain.not_model {l : Leaf} {s : Schema} (h : l.IsPlain) (hs : l = .schema s) :
    ¬(s.form = .composed ∨ s.form = .object) := by
  obtain ⟨-, hcomposed, hobject⟩ := h s hs
  exact not_or.mpr ⟨hcomposed, hobject⟩

/-- The schemas that are promoted where positions are resolved one after the other, each after the
schemas that are promoted inside it. -/
inductive Components.Promotes (c : Components) : List SchemaNode → List Schema → Prop
  | nil : Promotes c [] []
  | plain {location : String} {node : SchemaNode} {w : Walk} {rest : List SchemaNode}
      {schemas : List Schema} (hw : c.walk .empty location node = .ok w) (hleaf : w.leaf.IsPlain)
      (hrest : Promotes c rest schemas) : Promotes c (node :: rest) schemas
  | union {location : String} {node : SchemaNode} {w : Walk} {s : Schema} {rest : List SchemaNode}
      {inside schemas : List Schema} (hw : c.walk .empty location node = .ok w)
      (hleaf : w.leaf = .schema s) (hform : s.form = .union)
      (hinside : Promotes c (Resolver.unionBranches s).2 inside)
      (hrest : Promotes c rest schemas) : Promotes c (node :: rest) (inside ++ schemas)
  | model {location : String} {node : SchemaNode} {w : Walk} {s : Schema} {rest : List SchemaNode}
      {inside schemas : List Schema} {origin stands : String} {form : ModelForm}
      (hw : c.walk .empty location node = .ok w) (hleaf : w.leaf = .schema s)
      (hform : s.form = .composed ∨ s.form = .object)
      (hmodel : c.modelForm origin stands s = .ok form) (hinside : Promotes c form.nodes inside)
      (hrest : Promotes c rest schemas) : Promotes c (node :: rest) (inside ++ s :: schemas)

theorem SchemaBody.Extends.unique {s : Schema} {name name' : String} (h : s.Extends name)
    (h' : s.Extends name') : name = name' := by
  obtain ⟨pointer, hpointer, hname⟩ := h
  obtain ⟨pointer', hpointer', hname'⟩ := h'
  obtain rfl := Option.some.inj (hpointer.symm.trans hpointer')
  exact Except.ok.inj (hname.symm.trans hname')

namespace Components

variable {c : Components} {origin origin' location location' : String} {s : Schema}

/-- Which parent a model has does not depend on its own name, which can only be a reason to fail. -/
theorem parentOf_eq_of_ok {parent parent' : Option String}
    (h : c.parentOf origin s location = .ok parent)
    (h' : c.parentOf origin' s location' = .ok parent') : parent = parent' := by
  have hnone {origin origin' location location' n : String}
      (h : c.parentOf origin s location = .ok none)
      (h' : c.parentOf origin' s location' = .ok (some n)) : False := by
    obtain ⟨name, node, hextends, hfound, hnode, -⟩ := exists_of_parentOf h'
    exact not_hasParent_of_parentOf h ⟨name, node, hextends, hfound, hnode⟩
  cases parent with
  | none =>
    cases parent' with
    | none => rfl
    | some n => exact (hnone h h').elim
  | some n =>
    cases parent' with
    | none => exact (hnone h' h).elim
    | some n' =>
      obtain ⟨name, -, hextends, -, -, rfl, -⟩ := exists_of_parentOf h
      obtain ⟨name', -, hextends', -, -, rfl, -⟩ := exists_of_parentOf h'
      rw [hextends.unique hextends']

theorem composedForm_eq_of_ok {form form' : ModelForm}
    (h : c.composedForm origin location s = .ok form)
    (h' : c.composedForm origin' location s = .ok form') : form = form' := by
  have hbind {x x' : Except ResolveError (Option String)}
      {f : Option String → Except ResolveError ModelForm}
      (hx : ∀ a a', x = .ok a → x' = .ok a' → a = a') (h : x >>= f = .ok form)
      (h' : x' >>= f = .ok form') : form = form' := by
    rcases x with e | a
    · cases h
    rcases x' with e | a'
    · cases h'
    obtain rfl := hx a a' rfl rfl
    exact Except.ok.inj (h.symm.trans h')
  rw [composedForm] at h h'
  split at h <;> split at h'
  next branch hallOf _ _ _ branch' hallOf' _ =>
    obtain rfl : branch = branch' := by simpa [hallOf] using hallOf'
    exact Except.ok.inj (h.symm.trans h')
  next hallOf hproperties _ _ hother => exact (hother _ hallOf hproperties).elim
  next hother _ _ _ hallOf hproperties => exact (hother _ hallOf hproperties).elim
  next => exact hbind (fun _ _ => parentOf_eq_of_ok) h h'

/-- What a schema becomes does not depend on where it stands, nor on the name that its model gets,
unless this is a reason to fail. -/
theorem modelForm_eq_of_ok {form form' : ModelForm}
    (h : c.modelForm origin location s = .ok form)
    (h' : c.modelForm origin' location' s = .ok form') : form = form' := by
  rw [(c.modelForm_alike location' location origin' s).ok_iff] at h'
  rw [modelForm] at h h'
  split_ifs at h h'
  · exact Except.ok.inj (h.symm.trans h')
  · exact Except.ok.inj (h.symm.trans h')
  · exact composedForm_eq_of_ok h h'
  · exact Except.ok.inj (h.symm.trans h')
  · exact Except.ok.inj (h.symm.trans h')

/-! ### The schemas that are promoted -/

namespace Promotes

variable {nodes nodes' : List SchemaNode} {schemas schemas' : List Schema}

theorem append (h : c.Promotes nodes schemas) (h' : c.Promotes nodes' schemas') :
    c.Promotes (nodes ++ nodes') (schemas ++ schemas') := by
  induction h with
  | nil => exact h'
  | plain hw hleaf _ ih => exact .plain hw hleaf ih
  | union hw hleaf hform hinside _ _ ih =>
    rw [List.append_assoc]
    exact .union hw hleaf hform hinside ih
  | model hw hleaf hform hmodel hinside _ _ ih =>
    rw [List.append_assoc]
    exact .model hw hleaf hform hmodel hinside ih

/-- The contract determines which schemas are promoted, and in which order. -/
theorem unique (h : c.Promotes nodes schemas) (h' : c.Promotes nodes schemas') :
    schemas = schemas' := by
  have hsame {location location' : String} {node : SchemaNode} {w w' : Walk}
      (hw : c.walk .empty location node = .ok w) (hw' : c.walk .empty location' node = .ok w') :
      w.leaf = w'.leaf := congrArg Prod.snd (content_eq_of_walk hw hw')
  induction h generalizing schemas' with
  | nil =>
    cases h'
    rfl
  | plain hw hleaf _ ih =>
    cases h' with
    | plain hw' _ hrest' => exact ih hrest'
    | union hw' hleaf' hform' => exact absurd hform' (hleaf _ ((hsame hw hw').trans hleaf')).1
    | model hw' hleaf' hform' =>
      exact absurd hform' (hleaf.not_model ((hsame hw hw').trans hleaf'))
  | union hw hleaf hform _ _ ihInside ih =>
    cases h' with
    | plain hw' hleaf' => exact absurd hform (hleaf' _ ((hsame hw hw').symm.trans hleaf)).1
    | union hw' hleaf' _ hinside' hrest' =>
      cases (hleaf.symm.trans (hsame hw hw')).trans hleaf'
      rw [ihInside hinside', ih hrest']
    | model hw' hleaf' hform' =>
      cases (hleaf.symm.trans (hsame hw hw')).trans hleaf'
      rw [hform] at hform'
      rcases hform' with hform' | hform' <;> cases hform'
  | model hw hleaf hform hmodel _ _ ihInside ih =>
    cases h' with
    | plain hw' hleaf' =>
      exact absurd hform (hleaf'.not_model ((hsame hw hw').symm.trans hleaf))
    | union hw' hleaf' hform' =>
      cases (hleaf.symm.trans (hsame hw hw')).trans hleaf'
      rw [hform'] at hform
      rcases hform with hform | hform <;> cases hform
    | model hw' hleaf' _ hmodel' hinside' hrest' =>
      cases (hleaf.symm.trans (hsame hw hw')).trans hleaf'
      obtain rfl := modelForm_eq_of_ok hmodel hmodel'
      rw [ihInside hinside', ih hrest']

end Promotes

end Components

/-- The positions in a form stand where its parts stand. -/
theorem ModelForm.Within.forall_nodes {c : Components} {P : SchemaNode → Prop} (hP : c.Closed P)
    {form : ModelForm} (h : form.Within P) : ∀ node ∈ form.nodes, P node := by
  cases form with
  | enum s => exact List.forall_mem_nil _
  | union s => exact hP.unionBranches h
  | synonym node => exact List.forall_mem_singleton.mpr h
  | object parent properties d => exact List.forall_mem_map.mpr h.1

/-- Schemas that are promoted stand in a closed set if the positions do. -/
theorem Components.Promotes.within {c : Components} {P : SchemaNode → Prop} (hP : c.Closed P)
    {nodes : List SchemaNode} {schemas : List Schema} (h : c.Promotes nodes schemas)
    (hnodes : ∀ node ∈ nodes, P node) : ∀ s ∈ schemas, P (.inline s) := by
  induction h with
  | nil => exact List.forall_mem_nil _
  | plain _ _ _ ih => exact ih (List.forall_mem_cons.mp hnodes).2
  | union hw hleaf _ _ _ ihInside ih =>
    obtain ⟨hnode, hrest⟩ := List.forall_mem_cons.mp hnodes
    have hs := hP.leaf_of_walk hw hnode _ hleaf
    exact List.forall_mem_append.mpr ⟨ihInside (hP.unionBranches hs), ih hrest⟩
  | model hw hleaf _ hmodel _ _ ihInside ih =>
    obtain ⟨hnode, hrest⟩ := List.forall_mem_cons.mp hnodes
    have hs := hP.leaf_of_walk hw hnode _ hleaf
    have hform : ModelForm.Within P _ := hP.modelForm hs hmodel
    exact List.forall_mem_append.mpr
      ⟨ihInside (hform.forall_nodes hP), List.forall_mem_cons.mpr ⟨hs, ih hrest⟩⟩

/-! ### Where an operation is resolved -/

/-- The schema of the media type that counts. -/
def Content.preferredNode (content : Content) : Option SchemaNode :=
  (preferredMedia content).bind fun e => e.2.schema

/-- The positions at which an operation is resolved: those of its parameters, of the body that is
sent to it, and of the response that counts, once each pointer is followed. -/
inductive Endpoint.Exchanges (c : Components) (e : Endpoint) : List SchemaNode → Prop
  | mk {declared : List Parameter} {body : Option RequestBody} {response : Option Response}
      (hparameters : List.Forall₂ (Referable.ComesTo "parameters" c.parameters)
        (e.item.parameters ++ e.operation.parameters) declared)
      (hbody : Option.Rel (Referable.ComesTo "requestBodies" c.requestBodies)
        e.operation.requestBody body)
      (hresponse : Option.Rel (Referable.ComesTo "responses" c.responses)
        ((successResponse e.operation.responses).map Prod.snd) response) :
      Exchanges c e ((mergeParameters declared).flatMap Parameter.nodes ++
        (body.bind fun b => b.content.preferredNode).toList ++
        (response.bind fun r => r.content.preferredNode).toList)

/-- The contract determines where an operation is resolved. -/
theorem Endpoint.Exchanges.unique {c : Components} {e : Endpoint} {nodes nodes' : List SchemaNode}
    (h : e.Exchanges c nodes) (h' : e.Exchanges c nodes') : nodes = nodes' := by
  obtain ⟨hparameters, hbody, hresponse⟩ := h
  obtain ⟨hparameters', hbody', hresponse'⟩ := h'
  rw [(Referable.rightUnique_comesTo _ _).forall₂ hparameters hparameters',
    rightUnique_optionRel (Referable.rightUnique_comesTo _ _) hbody hbody',
    rightUnique_optionRel (Referable.rightUnique_comesTo _ _) hresponse hresponse']

/-- The positions at which an operation is resolved stand in every closed set with those of the
operation. -/
theorem Endpoint.Exchanges.within {c : Components} {P : SchemaNode → Prop} (hP : c.Closed P)
    {e : Endpoint} {nodes : List SchemaNode} (h : e.Exchanges c nodes)
    (he : ∀ node ∈ e.nodes, P node) : ∀ node ∈ nodes, P node := by
  simp only [Endpoint.nodes, List.forall_mem_append] at he
  obtain ⟨⟨hparameters, hbodies⟩, hresponses⟩ := he
  obtain ⟨hdeclared, hbody, hresponse⟩ := h
  have hpreferred {content : Content} (hcontent : ∀ node ∈ content.nodes, P node) :
      ∀ node ∈ content.preferredNode, P node := by
    intro node hnode
    obtain ⟨media, hmedia, hschema⟩ := Option.bind_eq_some_iff.mp hnode
    exact hcontent node (Content.mem_nodes_of_preferredMedia hmedia hschema)
  refine List.forall_mem_append.mpr ⟨List.forall_mem_append.mpr ⟨?_, ?_⟩, ?_⟩
  · intro node hnode
    obtain ⟨q, hq, hnode⟩ := List.mem_flatMap.mp hnode
    obtain ⟨position, hposition, hcomes⟩ :=
      exists_of_forall₂ hdeclared (mem_of_mem_mergeParameters hq)
    refine hP.parameter_of_get ?_ (Referable.get_of_comesTo hcomes) node hnode
    rintro a rfl node hnode
    exact hparameters node (mem_nodesOfValues.mpr ⟨a, hposition, hnode⟩)
  · rcases hsent : e.operation.requestBody with _ | position <;> rw [hsent] at hbody hbodies <;>
      cases hbody
    · exact List.forall_mem_nil _
    next body hcomes =>
    refine fun node hnode => hpreferred (hP.requestBody_of_get ?_ (Referable.get_of_comesTo hcomes))
      node (Option.mem_toList.mp hnode)
    rintro a rfl node hnode
    exact hbodies node (mem_nodesOfValues.mpr ⟨a, List.mem_singleton.mpr rfl, hnode⟩)
  · rcases hsuccess : successResponse e.operation.responses with _ | ⟨status, position⟩ <;>
      rw [hsuccess] at hresponse <;> cases hresponse
    · exact List.forall_mem_nil _
    next response hcomes =>
    refine fun node hnode => hpreferred (hP.response_of_get ?_ (Referable.get_of_comesTo hcomes))
      node (Option.mem_toList.mp hnode)
    rintro a rfl node hnode
    exact hresponses node (mem_nodesOfValues.mpr
      ⟨a, List.mem_map_of_mem (mem_of_successResponse hsuccess), hnode⟩)

/-! ### Models that are promoted -/

namespace Resolver

variable {r : Resolver}

/-- Models that are promoted for schemas, one for each: a model is built of its schema when the
models before it have been promoted. -/
inductive ModelsOf (r : Resolver) : List Schema → List Model → Prop
  | nil : ModelsOf r [] []
  | push {schemas : List Schema} {models : List Model} {s : Schema} {m : Model} {n : Nat}
      {location : String} {st st' : Promotions} (h : ModelsOf r schemas models)
      (hbuilt : (r.buildModel (r.shapeWithin n) m.name s location).outcome st = (.ok m, st'))
      (hbefore : st'.models = models) : ModelsOf r (schemas ++ [s]) (models ++ [m])

/-- There is one model for each schema. -/
theorem ModelsOf.length_eq {schemas : List Schema} {models : List Model}
    (h : r.ModelsOf schemas models) : schemas.length = models.length := by
  induction h with
  | nil => rfl
  | push _ _ _ ih => simp [ih]

/-- Each model is built of its schema, and leaves a state with the models before it. -/
theorem ModelsOf.exists_built {schemas : List Schema} {models : List Model}
    (h : r.ModelsOf schemas models) {i : Nat} {s : Schema} {m : Model} (hs : schemas[i]? = some s)
    (hm : models[i]? = some m) : ∃ n location st st',
      (r.buildModel (r.shapeWithin n) m.name s location).outcome st = (.ok m, st') ∧
        st'.models = models.take i := by
  induction h with
  | nil => cases hm
  | @push schemas models s' m' n location st st' h hbuilt hbefore ih =>
    rcases Nat.lt_or_ge i models.length with hlt | hge
    · rw [List.getElem?_append_left (h.length_eq ▸ hlt)] at hs
      rw [List.getElem?_append_left hlt] at hm
      rw [List.take_append_of_le_length (Nat.le_of_lt hlt)]
      exact ih hs hm
    · obtain rfl : i = models.length := by
        have hlt := (List.getElem?_eq_some_iff.mp hm).1
        simp only [List.length_append, List.length_singleton] at hlt
        omega
      rw [List.getElem?_concat_length] at hm
      rw [← h.length_eq, List.getElem?_concat_length] at hs
      cases hm
      cases hs
      exact ⟨n, location, st, st', hbuilt, by rw [List.take_left, hbefore]⟩

end Resolver

/-- Where a resolving answers, it leaves the state as it is. -/
def Resolving.Idle {α : Type} (x : Resolving α) : Prop :=
  ∀ ⦃st st' : Promotions⦄ ⦃a : α⦄, x.outcome st = (.ok a, st') → st' = st

namespace Resolving.Idle

variable {α β : Type} {x : Resolving α} {f : α → Resolving β}

theorem pure (a : α) : Idle (Pure.pure a) := by
  rintro st _ _ ⟨⟩
  rfl

theorem lift (e : Except ResolveError α) : Idle (liftM e) :=
  fun _ _ _ hout => (Prod.mk.inj hout).2.symm

theorem liftOption (g : α → Except ResolveError β) (o : Option α) :
    Idle (o.mapM fun a => (liftM (g a) : Resolving β)) := by
  intro st st' b hout
  rw [outcome_mapM_lift] at hout
  exact (Prod.mk.inj hout).2.symm

theorem bind (hx : Idle x) (hf : ∀ a, Idle (f a)) : Idle (x >>= f) := by
  intro st st' b hout
  obtain ⟨a, st₁, ha, hout⟩ := exists_of_outcome_bind hout
  exact (hf a hout).trans (hx ha)

end Resolving.Idle

namespace Resolver

variable {r : Resolver}

/-- Where a resolving answers, it has promoted models for further schemas. -/
def Adds (r : Resolver) {α : Type} (x : Resolving α) (Q : List Schema → Prop) : Prop :=
  ∀ ⦃st st' : Promotions⦄ ⦃a : α⦄ ⦃schemas : List Schema⦄, x.outcome st = (.ok a, st') →
    r.ModelsOf schemas st.models → ∃ added, Q added ∧ r.ModelsOf (schemas ++ added) st'.models

namespace Adds

variable {α β : Type} {x : Resolving α} {f : α → Resolving β} {Q Q' R : List Schema → Prop}

theorem of_idle (hx : x.Idle) (h : Q []) : r.Adds x Q := by
  intro st st' a schemas hout hst
  rw [hx hout]
  exact ⟨[], h, by rwa [List.append_nil]⟩

theorem pure {a : α} (h : Q []) : r.Adds (Pure.pure a) Q := of_idle (.pure a) h

theorem throw {e : ResolveError} : r.Adds (MonadExcept.throw e : Resolving α) Q :=
  fun _ _ _ _ hout => nomatch hout

theorem weaken (hx : r.Adds x Q) (h : ∀ added, Q added → Q' added) : r.Adds x Q' := by
  intro st st' a schemas hout hst
  obtain ⟨added, hadded, hst'⟩ := hx hout hst
  exact ⟨added, h added hadded, hst'⟩

/-- What follows an answer adds to what has been added before. -/
theorem bind (hx : r.Adds x Q) (hf : ∀ a, r.Adds (f a) Q')
    (h : ∀ added added', Q added → Q' added' → R (added ++ added')) : r.Adds (x >>= f) R := by
  intro st st' b schemas hout hst
  obtain ⟨a, st₁, ha, hout⟩ := Resolving.exists_of_outcome_bind hout
  obtain ⟨added, hadded, hst₁⟩ := hx ha hst
  obtain ⟨added', hadded', hst'⟩ := hf a hout hst₁
  exact ⟨added ++ added', h added added' hadded hadded', by rwa [← List.append_assoc]⟩

/-- What leaves the state as it is may follow. -/
theorem bindIdle (hx : r.Adds x Q) (hf : ∀ a, (f a).Idle) : r.Adds (x >>= f) Q := by
  have hnone (a : α) : r.Adds (f a) (· = []) := of_idle (hf a) rfl
  refine hx.bind hnone fun added _ h heq => ?_
  rwa [heq, List.append_nil]

/-- A check may come before. -/
theorem liftBind {e : Except ResolveError α} (hf : ∀ a, e = .ok a → r.Adds (f a) Q) :
    r.Adds (liftM e >>= f) Q := by
  intro st st' b schemas hout hst
  obtain ⟨a, ha, hout⟩ := Resolving.exists_of_outcome_lift_bind hout
  exact hf a ha hout hst

theorem mapM {l : List α} {nodes : α → List SchemaNode}
    (hf : ∀ a ∈ l, r.Adds (f a) (r.components.Promotes (nodes a))) :
    r.Adds (l.mapM f) (r.components.Promotes (l.flatMap nodes)) := by
  induction l with
  | nil => exact .pure .nil
  | cons a l ih =>
    rw [List.mapM_cons, List.flatMap_cons]
    obtain ⟨ha, hl⟩ := List.forall_mem_cons.mp hf
    exact ha.bind (fun b => (ih hl).bindIdle fun bs => .pure _)
      fun _ _ hadded hadded' => hadded.append hadded'

/-- Positions are resolved one after the other. -/
theorem mapM_zipIdx {nodes : List SchemaNode} {f : SchemaNode × Nat → Resolving α}
    (hf : ∀ b, r.Adds (f b) (r.components.Promotes [b.1])) :
    r.Adds (nodes.zipIdx.mapM f) (r.components.Promotes nodes) := by
  have hasked : r.Adds (nodes.zipIdx.mapM f)
      (r.components.Promotes (nodes.zipIdx.flatMap fun b => [b.1])) := mapM fun b _ => hf b
  rwa [← List.map_eq_flatMap, List.zipIdx_map_fst] at hasked

end Adds

/-! ### The parts of a resolver -/

/-- A way to resolve a schema that promotes what the contract asks for. -/
def AddsShape (r : Resolver) (shape : Shape) : Prop :=
  ∀ usage node, r.Adds (shape usage node) (r.components.Promotes [node])

section Shapes

variable {shape : Shape} (hs : r.AddsShape shape)

include hs

theorem adds_unionType (usage : Usage) (s : Schema) :
    r.Adds (unionType shape usage s) (r.components.Promotes (unionBranches s).2) := by
  rw [unionType]
  exact (Adds.mapM_zipIdx fun b => hs _ b.1).bindIdle fun members =>
    (Resolving.Idle.liftOption _ _).bind fun d => .pure _

theorem adds_resolveWith (usage : Usage) (node : SchemaNode) :
    r.Adds (r.resolveWith shape usage node) (r.components.Promotes [node]) :=
  (hs usage node).bindIdle fun _ => (Resolving.Idle.lift _).bind fun _ => .pure _

theorem adds_fields (owner location : String) (properties : List Property) :
    r.Adds (r.fields shape owner location properties)
      (r.components.Promotes (properties.map Property.node)) := by
  have hfield (q : Property) :
      r.Adds (r.field shape owner location q) (r.components.Promotes [q.node]) :=
    (adds_resolveWith hs _ q.node).bindIdle fun _ => (Resolving.Idle.lift _).bind fun _ => .pure _
  rw [List.map_eq_flatMap]
  exact (Adds.mapM fun q _ => hfield q).bindIdle fun _ => .pure _

theorem adds_modelOf (base : Model) (owner location : String) (form : ModelForm) :
    r.Adds (r.modelOf shape base owner location form) (r.components.Promotes form.nodes) := by
  cases form with
  | enum s => exact .liftBind fun e _ => .pure .nil
  | union s => exact (adds_unionType hs _ s).bindIdle fun u => .pure _
  | synonym node => exact (adds_resolveWith hs _ node).bindIdle fun t => .pure _
  | object parent properties d =>
    exact (adds_fields hs owner location properties).bindIdle fun fields =>
      (Resolving.Idle.liftOption _ _).bind fun d' => .pure _

theorem adds_buildModel (name : Name) (s : Schema) (location : String) :
    r.Adds (r.buildModel shape name s location) fun added => ∃ form,
      r.components.modelForm name.text location s = .ok form ∧
        r.components.Promotes form.nodes added := by
  rw [r.buildModel_eq]
  exact .liftBind fun form hform =>
    (adds_modelOf hs _ _ _ form).weaken fun added hadded => ⟨form, hform, hadded⟩

end Shapes

/-- A schema is promoted after those inside it. -/
theorem adds_promote {n : Nat} (hs : r.AddsShape (r.shapeWithin n)) (usage : Usage) (s : Schema) :
    r.Adds (r.promote (r.shapeWithin n) usage s) fun added => ∃ origin location form inside,
      r.components.modelForm origin location s = .ok form ∧
        r.components.Promotes form.nodes inside ∧ added = inside ++ [s] := by
  intro st st' a schemas hout hst
  rw [promote, Resolving.outcome_bind, Resolving.outcome_claim] at hout
  obtain ⟨m, st₂, hbuilt, hout⟩ := Resolving.exists_of_outcome_bind hout
  cases hout
  obtain ⟨inside, ⟨form, hform, hinside⟩, hmodels⟩ := adds_buildModel hs _ s _ hbuilt hst
  refine ⟨inside ++ [s], ⟨_, _, form, inside, hform, hinside, rfl⟩, ?_⟩
  rw [← name_eq_of_buildModel hbuilt] at hbuilt
  rw [← List.append_assoc]
  exact hmodels.push hbuilt rfl

/-- What is promoted at the leaf to which the way from a position leads. -/
theorem adds_leafType {n : Nat} (hs : r.AddsShape (r.shapeWithin n)) (usage : Usage)
    {location : String} {node : SchemaNode} {w : Walk}
    (hw : r.components.walk .empty location node = .ok w) :
    r.Adds (r.leafType (r.shapeWithin n) usage w.leaf) (r.components.Promotes [node]) := by
  have hplain (hleaf : w.leaf.IsPlain) : r.components.Promotes [node] [] := .plain hw hleaf .nil
  cases hleaf : w.leaf with
  | model name => exact .pure (hplain fun s hs => nomatch hleaf.symm.trans hs)
  | any => exact .pure (hplain fun s hs => nomatch hleaf.symm.trans hs)
  | schema s =>
    have hnone (hform : s.form ≠ .union ∧ s.form ≠ .composed ∧ s.form ≠ .object) :
        r.components.Promotes [node] [] := by
      refine hplain fun s' hs' => ?_
      cases hleaf.symm.trans hs'
      exact hform
    have hmodel (hform : s.form = .composed ∨ s.form = .object) :
        r.Adds (r.promote (r.shapeWithin n) usage s) (r.components.Promotes [node]) := by
      refine (adds_promote hs usage s).weaken ?_
      rintro _ ⟨origin, stands, form, inside, hmodel, hinside, rfl⟩
      exact .model hw hleaf hform hmodel hinside .nil
    unfold leafType
    dsimp only
    split
    case h_1 hform => exact .liftBind fun e _ => .pure (hnone (by simp [hform]))
    case h_2 hform =>
      refine ((adds_unionType hs usage s).weaken fun inside hinside => ?_).bindIdle
        fun u => .pure _
      rw [← List.append_nil inside]
      exact .union hw hleaf hform hinside .nil
    case h_3 hform => exact (hmodel (.inl hform)).bindIdle fun name => .pure _
    case h_4 hform => exact (hmodel (.inr hform)).bindIdle fun name => .pure _
    case h_5 types hform => exact .liftBind fun ts _ => .pure (hnone (by simp [hform]))
    case h_6 type hform => exact .of_idle (.lift _) (hnone (by simp [hform]))
    case h_7 => exact .pure (hnone ⟨‹_›, ‹_›, ‹_›⟩)

/-! ### The shape of a schema -/

theorem addsShape_shapeByWalk {bound : Leaf → Nat}
    (hs : ∀ l, r.AddsShape (r.shapeWithin (bound l))) :
    r.AddsShape (r.shapeByWalk fun l => r.shapeWithin (bound l)) := fun _ _ =>
  .liftBind fun w hw => (adds_leafType (hs w.leaf) _ hw).bindIdle fun _ => .pure _

theorem addsShape_shapeWithin : ∀ n, r.AddsShape (r.shapeWithin n)
  | 0 => fun _ _ => .throw
  | n + 1 => addsShape_shapeByWalk fun _ => addsShape_shapeWithin n

theorem addsShape_shape : r.AddsShape r.shape :=
  addsShape_shapeByWalk fun l => addsShape_shapeWithin (r.components.size + l.size)

theorem adds_resolve (usage : Usage) (node : SchemaNode) :
    r.Adds (r.resolve usage node) (r.components.Promotes [node]) :=
  adds_resolveWith addsShape_shape usage node

/-! ### The answers of a resolver -/

theorem adds_component (name : String) (node : SchemaNode) :
    r.Adds (r.component name node) fun added => ∃ form,
      r.components.componentForm name node = .ok form ∧ r.components.Promotes form.nodes added := by
  rw [r.component_eq]
  exact .liftBind fun form hform => (adds_modelOf addsShape_shape _ _ _ form).weaken
    fun added hadded => ⟨form, hform, hadded⟩

theorem adds_parameter (owner location : String) (q : Parameter) :
    r.Adds (r.parameter owner location q) (r.components.Promotes q.nodes) := by
  rw [parameter, Parameter.nodes]
  dsimp only
  split
  next node hnode =>
    simp only [pure_bind]
    rw [hnode]
    exact (adds_resolve _ node).bindIdle fun _ => (Resolving.Idle.lift _).bind fun _ => .pure _
  next hnone =>
    simp only [pure_bind]
    rw [hnone]
    exact .pure .nil

theorem adds_parameters (owner location : String) (item : PathItem) (op : Operation) :
    r.Adds (r.parameters owner location item op) fun added => ∃ declared,
      List.Forall₂ (Referable.ComesTo "parameters" r.components.parameters)
        (item.parameters ++ op.parameters) declared ∧
      r.components.Promotes ((mergeParameters declared).flatMap Parameter.nodes) added := by
  refine .liftBind fun declared hdeclared => ?_
  have hasked : r.Adds ((mergeParameters declared).mapM (r.parameter owner location))
      (r.components.Promotes ((mergeParameters declared).flatMap Parameter.nodes)) :=
    .mapM fun q _ => adds_parameter owner location q
  refine (hasked.bindIdle fun _ => .pure _).weaken fun added hadded => ⟨declared, ?_, hadded⟩
  exact (forall₂_of_mapM_ok hdeclared).imp fun _ _ => Referable.comesTo_of_get

theorem adds_requestBody (owner location : String) (position : Referable RequestBody) :
    r.Adds (r.requestBody owner location position) fun added => ∃ body,
      position.ComesTo "requestBodies" r.components.requestBodies body ∧
        r.components.Promotes body.content.preferredNode.toList added := by
  refine .liftBind fun body hbody => ?_
  suffices h : r.Adds _ (r.components.Promotes body.content.preferredNode.toList) from
    h.weaken fun added hadded => ⟨body, Referable.comesTo_of_get hbody, hadded⟩
  rw [Content.preferredNode]
  split
  next hnone =>
    rw [hnone]
    exact .pure .nil
  next contentType media hmedia =>
    rw [hmedia, Option.bind_some]
    dsimp only
    split
    next node hnode =>
      rw [hnode]
      exact (adds_resolve _ node).bindIdle fun t => .pure _
    next hnone =>
      rw [hnone, pure_bind]
      exact .pure .nil

theorem adds_responseOf (owner location : String) (op : Operation) :
    r.Adds (r.responseOf owner location op) fun added => ∃ response,
      Option.Rel (Referable.ComesTo "responses" r.components.responses)
        ((successResponse op.responses).map Prod.snd) response ∧
      r.components.Promotes (response.bind fun a => a.content.preferredNode).toList added := by
  rw [responseOf]
  split
  next hnone =>
    rw [hnone]
    exact .pure ⟨none, .none, .nil⟩
  next status position hposition =>
  refine .liftBind fun response hresponse => ?_
  suffices h : r.Adds _ (r.components.Promotes response.content.preferredNode.toList) by
    refine h.weaken fun added hadded => ⟨some response, ?_, hadded⟩
    rw [hposition]
    exact .some (Referable.comesTo_of_get hresponse)
  rw [Content.preferredNode]
  split
  next hnone =>
    rw [hnone]
    exact .pure .nil
  next node hnode =>
    rw [hnode]
    exact (adds_resolve _ node).bindIdle fun t => .pure _

theorem adds_operation (e : Endpoint) :
    r.Adds (r.operation e) fun added => ∃ nodes,
      e.Exchanges r.components nodes ∧ r.components.Promotes nodes added := by
  have hbody (owner location : String) :
      r.Adds (e.operation.requestBody.elim (pure none) (r.requestBody owner location))
        fun added => ∃ body, Option.Rel (Referable.ComesTo "requestBodies"
          r.components.requestBodies) e.operation.requestBody body ∧
          r.components.Promotes (body.bind fun b => b.content.preferredNode).toList added := by
    cases e.operation.requestBody with
    | none => exact .pure ⟨none, .none, .nil⟩
    | some position =>
      exact (adds_requestBody owner location position).weaken
        fun added ⟨body, hbody, hadded⟩ => ⟨some body, .some hbody, hadded⟩
  intro st st' op schemas hout hst
  obtain ⟨st₁, st₂, hparameters, hsent, hresponse⟩ := steps_of_operation hout
  obtain ⟨added₁, ⟨declared, hdeclared, h₁⟩, hst₁⟩ := adds_parameters _ _ _ _ hparameters hst
  obtain ⟨added₂, ⟨body, hbody, h₂⟩, hst₂⟩ := hbody _ _ hsent hst₁
  obtain ⟨added₃, ⟨response, hanswer, h₃⟩, hst₃⟩ := adds_responseOf _ _ _ hresponse hst₂
  have hasked := (h₁.append h₂).append h₃
  refine ⟨added₁ ++ added₂ ++ added₃, ⟨_, .mk hdeclared hbody hanswer, hasked⟩, ?_⟩
  simpa only [List.append_assoc] using hst₃

/-- What is added when nothing has been promoted before. -/
theorem Adds.of_run {α : Type} {x : Resolving α} {Q : List Schema → Prop} (hx : r.Adds x Q) {a : α}
    {promoted : List Model} (h : r.run x = .ok (a, promoted)) :
    ∃ schemas, Q schemas ∧ r.ModelsOf schemas promoted := by
  obtain ⟨st, hout, rfl⟩ := exists_outcome_of_run h
  obtain ⟨schemas, hschemas, hmodels⟩ := hx hout .nil
  exact ⟨schemas, hschemas, hmodels⟩

/-- A named schema promotes the schemas inside its form. -/
theorem modelsOf_of_component {name : String} {node : SchemaNode} {m : Model}
    {promoted : List Model} (h : r.run (r.component name node) = .ok (m, promoted)) :
    ∃ form schemas, r.components.componentForm name node = .ok form ∧
      r.components.Promotes form.nodes schemas ∧ r.ModelsOf schemas promoted := by
  obtain ⟨schemas, ⟨form, hform, hschemas⟩, hmodels⟩ := (adds_component name node).of_run h
  exact ⟨form, schemas, hform, hschemas, hmodels⟩

/-- An operation promotes the schemas of what it exchanges. -/
theorem modelsOf_of_operation {e : Endpoint} {op : ApiOperation} {promoted : List Model}
    (h : r.run (r.operation e) = .ok (op, promoted)) :
    ∃ nodes schemas, e.Exchanges r.components nodes ∧ r.components.Promotes nodes schemas ∧
      r.ModelsOf schemas promoted := by
  obtain ⟨schemas, ⟨nodes, hnodes, hschemas⟩, hmodels⟩ := (adds_operation e).of_run h
  exact ⟨nodes, schemas, hnodes, hschemas, hmodels⟩

end Resolver

end ApiModel
