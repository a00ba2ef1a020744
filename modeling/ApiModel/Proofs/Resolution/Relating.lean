import ApiModel.Proofs.Resolution.Relocating

/-!
# Resolving with other errors

A relation between resolvings is a congruence if it takes no notice of which error is reported, and
what is built from related parts is related. The place where a schema stands shows only in errors.
So every congruence relates resolving a schema to resolving it as if it stood elsewhere, and more
generally to resolving another schema from which walking ends alike.

Promoting is one part here: the name is taken first, and the model, which may need further models,
is added at the end.

## Main definitions

* `Resolving.promoting`: how a model is promoted.
* `Resolving.Congruence`: a relation that is kept part by part.
* `Resolver.Relocates`: shapes of one schema at two places are related.

## Main results

* `Resolver.related_buildModel`: building a model.
* `Resolver.related_shape_of_alike`: the shapes of schemas from which walking ends alike.
* `Resolver.relocates_shape`, `Resolver.related_resolve`: a schema at two places.
-/

namespace ApiModel

namespace Resolving

/-- Promotes the model that is built for the name that is handed out. -/
def promoting (base : String) (build : String → Resolving Model) : Resolving String := do
  let name ← Promotions.claim base
  let model ← build name
  Promotions.push model
  return name

/-- A relation between resolvings that takes no notice of which error is reported, and relates what
is built from related parts. -/
structure Congruence (R : {α : Type} → Resolving α → Resolving α → Prop) : Prop where
  /-- An answer. -/
  pure {α : Type} (a : α) : R (Pure.pure a) (Pure.pure a)
  /-- An error. -/
  throw {α : Type} (e e' : ResolveError) :
    R (MonadExcept.throw e : Resolving α) (MonadExcept.throw e')
  /-- One resolving after the other. -/
  bind {α β : Type} {x y : Resolving α} {f g : α → Resolving β} (hx : R x y)
    (hf : ∀ a, R (f a) (g a)) : R (x >>= f) (y >>= g)
  /-- A promoted model. -/
  promoting {build build' : String → Resolving Model} (base : String)
    (hbuild : ∀ name, R (build name) (build' name)) :
    R (promoting base build) (promoting base build')

namespace Congruence

variable {R : {α : Type} → Resolving α → Resolving α → Prop} (hR : Congruence R) {α β : Type}

include hR

/-- Checks that answer alike are related. -/
theorem lift {x y : Except ResolveError α} (h : Alike x y) :
    R (liftM x : Resolving α) (liftM y) := by
  rcases h.fail_or_ok with ⟨e, e', rfl, rfl⟩ | ⟨a, rfl, rfl⟩
  · exact hR.throw e e'
  · exact hR.pure a

theorem mapM {f g : α → Resolving β} {l : List α} (h : ∀ a ∈ l, R (f a) (g a)) :
    R (l.mapM f) (l.mapM g) := by
  induction l with
  | nil => exact hR.pure []
  | cons a l ih =>
    rw [List.mapM_cons, List.mapM_cons]
    exact hR.bind (h a List.mem_cons_self) fun b =>
      hR.bind (ih fun a' ha' => h a' (List.mem_cons_of_mem _ ha')) fun bs => hR.pure _

theorem liftOption (f : α → Except ResolveError β) (o : Option α) :
    R (o.mapM fun a => (liftM (f a) : Resolving β)) (o.mapM fun a => liftM (f a)) := by
  cases o with
  | none => exact hR.pure none
  | some a =>
    rw [Option.mapM_some, map_eq_pure_bind]
    exact hR.bind (hR.lift (.refl _)) fun b => hR.pure _

end Congruence

end Resolving

namespace Resolver

open Resolving

variable {R : {α : Type} → Resolving α → Resolving α → Prop} (hR : Congruence R) {r : Resolver}
  {shape : Shape}

/-- The shapes of one schema at two places are related. -/
def Relocates (R : {α : Type} → Resolving α → Resolving α → Prop) (shape : Shape) : Prop :=
  ∀ usage location node, R (shape usage node) (shape { usage with location } node)

/-! ### The parts of a resolver -/

section Parts

variable (hs : Relocates R shape)

include hR hs

theorem related_unionType (usage : Usage) (location : String) (s : Schema) :
    R (unionType shape usage s) (unionType shape { usage with location } s) := by
  unfold unionType
  dsimp only
  refine hR.bind (hR.mapM fun b _ => hs _ _ _) fun members => ?_
  exact hR.bind (hR.liftOption _ _) fun d => hR.pure _

theorem related_resolveWith (usage : Usage) (location : String) (node : SchemaNode) :
    R (r.resolveWith shape usage node) (r.resolveWith shape { usage with location } node) :=
  hR.bind (hs usage location node) fun _ => hR.bind (hR.lift (.refl _)) fun _ => hR.pure _

theorem related_field (owner location location' : String) (p : Property) :
    R (r.field shape owner location p) (r.field shape owner location' p) :=
  hR.bind (related_resolveWith hR hs _ _ _) fun _ =>
    hR.bind (hR.lift (.refl _)) fun _ => hR.pure _

theorem related_fields (owner location location' : String) (properties : List Property) :
    R (r.fields shape owner location properties) (r.fields shape owner location' properties) :=
  hR.bind (hR.mapM fun p _ => related_field hR hs owner location location' p) fun _ => hR.pure _

theorem related_synonym (base : Model) (owner location location' : String) (node : SchemaNode) :
    R (r.synonym shape base owner location node) (r.synonym shape base owner location' node) :=
  hR.bind (related_resolveWith hR hs _ _ _) fun _ => hR.pure _

theorem related_object (base : Model) (owner location location' : String)
    (properties : List Property) (d : Option ContractDiscriminator) :
    R (r.object shape base owner location properties d)
      (r.object shape base owner location' properties d) :=
  hR.bind (related_fields hR hs owner location location' properties) fun _ =>
    hR.bind (hR.liftOption _ _) fun _ => hR.pure _

theorem related_modelOf (base : Model) (owner location location' : String) (form : ModelForm) :
    R (r.modelOf shape base owner location form) (r.modelOf shape base owner location' form) := by
  cases form with
  | enum s =>
    exact hR.bind (hR.lift (r.profile.enumType_alike location location' r.flags s)) fun e =>
      hR.pure _
  | union s => exact hR.bind (related_unionType hR hs _ _ s) fun u => hR.pure _
  | synonym node => exact related_synonym hR hs base owner location location' node
  | object parent properties d =>
    exact related_object hR hs _ owner location location' properties d

theorem related_buildModel (name : Name) (s : Schema) (location location' : String) :
    R (r.buildModel shape name s location) (r.buildModel shape name s location') := by
  rw [buildModel_eq, buildModel_eq]
  refine hR.bind (hR.lift ?_) fun form => related_modelOf hR hs _ _ location location' form
  exact r.components.modelForm_alike location location' name.text s

theorem related_promote (usage : Usage) (location : String) (s : Schema) :
    R (r.promote shape usage s) (r.promote shape { usage with location } s) :=
  hR.promoting usage.inlineName fun name =>
    related_buildModel hR hs (Name.ofText name) s usage.location location

theorem related_leafType (usage : Usage) (location : String) (leaf : Leaf) :
    R (r.leafType shape usage leaf) (r.leafType shape { usage with location } leaf) := by
  cases leaf with
  | model name => exact hR.pure _
  | any => exact hR.pure _
  | schema s =>
    unfold leafType
    dsimp only
    split
    · exact hR.bind (hR.lift (r.profile.enumType_alike _ _ r.flags s)) fun e => hR.pure _
    · exact hR.bind (related_unionType hR hs usage location s) fun u => hR.pure _
    · exact hR.bind (related_promote hR hs usage location s) fun name => hR.pure _
    · exact hR.bind (related_promote hR hs usage location s) fun name => hR.pure _
    · exact hR.bind (hR.lift (Alike.mapM (fun t => r.profile.primitive_alike _ _ t s.format) _))
        fun members => hR.pure _
    · exact hR.lift (r.profile.primitive_alike _ _ _ s.format)
    · exact hR.pure _

end Parts

/-! ### Shapes -/

section Shapes

include hR

/-- Shapes are related if walking ends alike, whatever resolves the schemas inside the leaf. -/
theorem related_shapeByWalk {inner : Leaf → Shape} (hs : ∀ leaf, Relocates R (inner leaf))
    {usage : Usage} {location : String} {node node' : SchemaNode}
    (h : Alike ((r.components.walk .empty usage.location node).map Walk.content)
      ((r.components.walk .empty location node').map Walk.content)) :
    R (r.shapeByWalk inner usage node) (r.shapeByWalk inner { usage with location } node') := by
  unfold shapeByWalk
  dsimp only
  rcases hw : r.components.walk .empty usage.location node with e | ⟨layers, stands, leaf⟩ <;>
    rcases hw' : r.components.walk .empty location node' with e' | ⟨layers', stands', leaf'⟩ <;>
      rw [hw, hw'] at h <;> cases h
  · exact hR.throw e e'
  · rw [lift_ok_bind, lift_ok_bind]
    exact hR.bind (related_leafType hR (hs leaf) { usage with location := stands } stands' leaf)
      fun t => hR.pure _

theorem relocates_shapeWithin : ∀ n, Relocates R (r.shapeWithin n)
  | 0 => fun _ _ _ => hR.throw _ _
  | n + 1 => fun usage location node =>
    related_shapeByWalk hR (fun _ => relocates_shapeWithin n)
      (r.components.walk_alike usage.location location node)

/-- The shapes of schemas are related if walking from them ends alike. -/
theorem related_shape_of_alike {usage : Usage} {location : String} {node node' : SchemaNode}
    (h : Alike ((r.components.walk .empty usage.location node).map Walk.content)
      ((r.components.walk .empty location node').map Walk.content)) :
    R (r.shape usage node) (r.shape { usage with location } node') :=
  related_shapeByWalk hR (fun leaf => relocates_shapeWithin hR (r.components.size + leaf.size)) h

theorem relocates_shape : Relocates R r.shape := fun usage location node =>
  related_shape_of_alike hR (r.components.walk_alike usage.location location node)

/-- Resolving a schema is related to resolving it as if it stood elsewhere. -/
theorem related_resolve (usage : Usage) (location : String) (node : SchemaNode) :
    R (r.resolve usage node) (r.resolve { usage with location } node) :=
  related_resolveWith hR (relocates_shape hR) usage location node

end Shapes

end Resolver

end ApiModel
