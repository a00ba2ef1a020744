import ApiModel.Name.Basic
import ApiModel.Profile.Basic
import ApiModel.Resolution.Form
import ApiModel.Resolution.Reference

/-!
# The way from a schema to what it stands for

Pointers to schemas that are no models, items of arrays, values of maps and lone branches of
an all-of are passed through. On the way no pointer may lead back to a name that was passed
before; the way then ends at a leaf.

## Main definitions

* `Leaf`, `Layer`, `Walk`: where the way ends, and the containers around it.
* `Components.walk`: the way from a schema position.
* `Walk.wrap`: a type inside the containers of the way.
-/

namespace ApiModel

/-- Where the way ends: at a model, at a schema, or at any value. -/
inductive Leaf where
  | model (name : String)
  | schema (s : Schema)
  | any

/-- How a type becomes the element of a container. -/
inductive ElementRule where
  | asIs
  | boxed (nullability : Nullability)
  deriving DecidableEq, Repr

/-- A container on the way. -/
inductive Layer where
  | array (element : ElementRule)
  | map (value : ElementRule)
  deriving DecidableEq, Repr

/-- The way from a schema position. -/
structure Walk where
  /-- The containers on the way, the outermost first. -/
  layers : List Layer := []
  /-- Where the leaf stands in the contract. -/
  location : String
  /-- The leaf. -/
  leaf : Leaf

/-- The number of schema positions of a leaf. -/
def Leaf.size : Leaf → Nat
  | schema s => (SchemaNode.inline s).size
  | _ => 0

/-- The rule for an element that leads to a schema: it is boxed, and its marker counts. -/
def ElementRule.ofTarget (target : Schema) : ElementRule :=
  boxed (.ofMarker target.nullableMarker)

/-- The way from a schema position. `chain` holds the names of the pointers so far. -/
def Components.walk (c : Components) (chain : Chain) (location : String) (node : SchemaNode) :
    Except ResolveError Walk :=
  match node with
  | .ref pointer =>
    match componentName "schemas" pointer with
    | .error e => .error e
    | .ok name =>
      match _found : c.schemas.lookup name with
      | none => .error (.missingTarget pointer)
      | some target =>
        if target.isModel then .ok { location, leaf := .model (Name.ofText name).pascalCase }
        else if _fresh : name ∈ chain.names then
          .error (.circular location (chain.closedBy name))
        else walk c ⟨chain.closedBy name⟩ (pointerTo "schemas" name) target
  | .inline s =>
    match _form : s.form with
    | .lone branch => walk c chain location branch
    | .array (some items) =>
      match walk c chain (location ++ "/items") items, c.target items with
      | .ok w, .ok target =>
        .ok { w with layers := .array (.ofTarget target) :: w.layers }
      | .error e, _ => .error e
      | _, .error e => .error e
    | .array none => .ok { layers := [.array .asIs], location, leaf := .any }
    | .map values =>
      match walk c chain (location ++ "/additionalProperties") values, c.target values with
      | .ok w, .ok target => .ok { w with layers := .map (.ofTarget target) :: w.layers }
      | .error e, _ => .error e
      | _, .error e => .error e
    | .mapOfAny => .ok { layers := [.map .asIs], location, leaf := .any }
    | _ => .ok { location, leaf := .schema s }
termination_by weightBeyond SchemaNode.size chain.names c.schemas + node.size
decreasing_by
  · have : weightBeyond SchemaNode.size (chain.names ++ [name]) c.schemas + target.size ≤
        weightBeyond SchemaNode.size chain.names c.schemas := weightBeyond_lt _found _fresh
    simp only [Chain.closedBy, SchemaNode.size]
    omega
  · have := s.size_of_form_lone _form
    simp only [SchemaNode.size]
    omega
  · have := s.size_of_form_array _form
    simp only [SchemaNode.size]
    omega
  · have := s.size_of_form_map _form
    simp only [SchemaNode.size]
    omega

/-! ### Containers -/

/-- A type as the element of a container. -/
def ElementRule.apply (t : ResolvedType) : ElementRule → ResolvedType
  | asIs => t
  | boxed nullability => { t.boxed with nullability }

/-- A container of elements. -/
def ContainerSyntax.of (s : ContainerSyntax) (element : ResolvedType)
    (kind : ResolvedType → TypeKind ResolvedType) : ResolvedType :=
  { name := fill s.template element.name, target := s.target, kind := kind element }

/-- A type inside a container. -/
def Layer.wrap (p : Profile) (t : ResolvedType) : Layer → ResolvedType
  | array rule => p.array.of (rule.apply t) .array
  | map rule => p.map.of (rule.apply t) .map

/-- A type inside the containers of the way. -/
def Walk.wrap (p : Profile) (w : Walk) (t : ResolvedType) : ResolvedType :=
  w.layers.foldr (fun layer t => layer.wrap p t) t

end ApiModel
