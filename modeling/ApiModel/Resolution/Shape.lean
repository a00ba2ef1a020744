import ApiModel.Resolution.Model

/-!
# The shape of a schema

The way from a schema leads to a leaf; the type of the leaf is put into the containers on the
way. Only unions and promoted models hold further schemas, each of which has a leaf of its
own. Nothing keeps a leaf from being met again inside itself, as where an all-of merges a
component that holds it. Such a schema has no shape: what is met inside a leaf depends on the
leaf alone, so a recursion that follows the leaves would never end there.

Where a shape is found, no leaf is met twice on any way down, so the number of schema positions
bounds how deep leaves are nested. The recursion here has this bound in place of none. It finds
every shape that there is; what it reports beyond the bound, `ResolveError.endless`, stands for a
recursion without end, which would report nothing.

## Main definitions

* `Resolver.leafType`: the type of a leaf.
* `Resolver.shape`: the shape of a schema.
* `Resolver.resolve`: a schema where it is used.
* `Resolver.component`: the model of a named schema.
-/

namespace ApiModel.Resolver

variable (r : Resolver)

/-- The type of a leaf. The schemas inside are resolved by `shape`. -/
def leafType (shape : Shape) (usage : Usage) : Leaf → Resolving ResolvedType
  | .model name => return .ofModel name
  | .any => return r.any
  | .schema s => do
    match s.form with
    | .enum =>
      let e ← r.profile.enumType r.flags s usage.location
      return .ofTarget (.named usage.enumName) (.enum e)
    | .union =>
      let u ← unionType shape usage s
      return .ofTarget r.profile.any (.union u)
    | .composed | .object => return .ofModel (← r.promote shape usage s)
    | .alternatives types =>
      let members ← (types.mapM fun t => r.profile.primitive t s.format usage.location :
        Except ResolveError (List ResolvedType))
      return .ofTarget r.profile.any (.union { members, discriminator := none })
    | .primitive t => r.profile.primitive t s.format usage.location
    | _ => return r.any

/-- The shape of a schema by its way; `inner` resolves the schemas inside the leaf. -/
def shapeByWalk (inner : Leaf → Shape) : Shape := fun usage node => do
  let w ← r.components.walk .empty usage.location node
  let type ← r.leafType (inner w.leaf) { usage with location := w.location } w.leaf
  return w.wrap r.profile type

/-- The shape of a schema with at most a given number of nested leaves, in place of a recursion
without a bound. -/
def shapeWithin : Nat → Shape
  | 0 => fun usage _ => throw (.endless usage.location)
  | n + 1 => r.shapeByWalk fun _ => shapeWithin n

/-- The shape of a schema. -/
def shape : Shape := r.shapeByWalk fun leaf => r.shapeWithin (r.components.size + leaf.size)

/-- A schema where it is used. -/
def resolve (usage : Usage) (node : SchemaNode) : Resolving ResolvedType :=
  r.resolveWith r.shape usage node

/-- The model of a named schema. -/
def component (name : String) (node : SchemaNode) : Resolving Model := do
  let location := pointerTo "schemas" name
  match node with
  | .inline s => r.buildModel r.shape (Name.ofText name) s location
  | .ref _ =>
    let name := Name.ofText name
    r.synonym r.shape { name } name.pascalCase location node

/-- An answer of a resolver with nothing promoted before, and the models that it promotes. -/
def run {α : Type} (answer : Resolving α) : Except ResolveError (α × List Model) :=
  match answer.run.run (Promotions.initial r.components) with
  | (.ok a, st) => .ok (a, st.models)
  | (.error e, _) => .error e

end ApiModel.Resolver
