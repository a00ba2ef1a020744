import ApiModel.Document.Entries
import ApiModel.Name.Basic
import ApiModel.Resolution.Reference

/-!
# All-of

The branches of an all-of either extend one parent or are merged into one schema. A parent is
a single pointer to an object among branches that only add properties. What is merged is the
list of schemas to which the branches lead: a pointer stands for its component, and the
branches of a schema come before the schema.

## Main definitions

* `Property`: a property of a model that is to be built.
* `extensionPointer`, `Components.parentOf`: the parent, if there is one.
* `inheritedProperties`: the properties that are added to those of the parent.
* `Components.flatten`: the schemas that are merged.
* `Merged`, `Components.merge`: the schema into which they are merged.
-/

namespace ApiModel

/-- A property of a model that is to be built. -/
structure Property where
  /-- Its name. -/
  name : String
  /-- Its schema. -/
  node : SchemaNode
  /-- Whether it must be present. -/
  required : Bool

/-- The properties of a schema. -/
def SchemaBody.ownProperties (s : Schema) : List Property :=
  s.properties.map fun (name, node) => { name, node, required := s.isRequired name }

/-! ### Inheritance -/

/-- Whether a branch only adds properties. -/
def SchemaBody.isPropertySet (s : Schema) : Bool :=
  !s.isComposed && !s.isEnum && (s.primaryType == none || s.primaryType == some .object)

/-- The single pointer of an all-of whose other branches only add properties. -/
def extensionPointer (s : Schema) : Option String :=
  match s.allOf.filterMap SchemaNode.pointer? with
  | [pointer] =>
    if (s.allOf.filterMap SchemaNode.schema?).all SchemaBody.isPropertySet then some pointer
    else none
  | _ => none

/-- Checks that the parents from a pointer on come to an end. `chain` holds the names of the
models below. -/
def Components.checkAncestors (c : Components) (location : String) (chain : Chain)
    (pointer : String) : Except ResolveError Unit :=
  match componentName "schemas" pointer with
  | .error e => .error e
  | .ok name =>
    match _found : c.schemas.lookup name with
    | none => .error (.missingTarget pointer)
    | some ancestor =>
      if _fresh : name ∈ chain.names then .error (.circular location (chain.closedBy name))
      else
        match ancestor.schema?.bind extensionPointer with
        | none => .ok ()
        | some next => checkAncestors c location ⟨chain.closedBy name⟩ next
termination_by weightBeyond (fun _ => 1) chain.names c.schemas
decreasing_by
  have : weightBeyond (fun _ => 1) (chain.names ++ [name]) c.schemas + 1 ≤
      weightBeyond (fun _ => 1) chain.names c.schemas := weightBeyond_lt _found _fresh
  simp only [Chain.closedBy]
  omega

/-- Whether a schema can be a parent: an object with named properties, or an all-of. -/
def SchemaNode.isParent (node : SchemaNode) : Bool :=
  node.schema?.any fun s => s.hasProperties || !s.allOf.isEmpty

/-- The name of the parent of a model, if there is one. The parents of the parent must not
lead back to the model, which is named `origin`. -/
def Components.parentOf (c : Components) (origin : String) (s : Schema) (location : String) :
    Except ResolveError (Option String) :=
  match extensionPointer s with
  | none => .ok none
  | some pointer => do
    let (name, parent) ← c.schemaAt pointer
    if parent.isParent then
      c.checkAncestors location ⟨[origin]⟩ pointer
      return some (Name.ofText name).pascalCase
    else return none

/-- Adds the properties of a branch. A property that was there is replaced in its place, and
stays required. -/
def addProperties (properties : List (String × SchemaNode × Bool)) (s : Schema) :
    List (String × SchemaNode × Bool) :=
  s.properties.foldl
    (fun acc (name, node) =>
      setEntry name (node, s.isRequired name || (acc.lookup name).any Prod.snd) acc)
    properties

/-- The properties that a model adds to those of its parent: those of the branches, then its
own. -/
def inheritedProperties (s : Schema) : List Property :=
  ((s.allOf.filterMap SchemaNode.schema? ++ [s]).foldl addProperties []).map
    fun (name, node, required) => { name, node, required }

/-! ### Merging -/

/-- The schemas that are merged, up to the first one that cannot be found. -/
structure Flattened where
  /-- The schemas in order. -/
  schemas : List Schema := []
  /-- Why the list stops, if it does. -/
  stop : Option ResolveError := none

/-- A list of schemas followed by another one, unless the first one stops. -/
def Flattened.append (a b : Flattened) : Flattened :=
  if a.stop.isSome then a else { schemas := a.schemas ++ b.schemas, stop := b.stop }

mutual

/-- The schemas that a branch merges. `chain` holds the names of the components that are
being expanded. -/
def Components.flatten (c : Components) (location : String) (chain : Chain)
    (node : SchemaNode) : Flattened :=
  match node with
  | .ref pointer =>
    match componentName "schemas" pointer with
    | .error e => { stop := some e }
    | .ok name =>
      match _found : c.schemas.lookup name with
      | none => { stop := some (.missingTarget pointer) }
      | some target =>
        if _fresh : name ∈ chain.names then
          { stop := some (.circular location (chain.closedBy name)) }
        else flatten c location ⟨chain.closedBy name⟩ target
  | .inline s => (flattenAll c location chain s.allOf).append { schemas := [s] }
termination_by (weightBeyond SchemaNode.size chain.names c.schemas + node.size, 0)
decreasing_by
  · have : weightBeyond SchemaNode.size (chain.names ++ [name]) c.schemas + target.size ≤
        weightBeyond SchemaNode.size chain.names c.schemas := weightBeyond_lt _found _fresh
    apply Prod.Lex.left
    simp only [Chain.closedBy, SchemaNode.size]
    omega
  · have := s.size_allOf_le
    apply Prod.Lex.left
    simp only [SchemaNode.size]
    omega

/-- The schemas that several branches merge. -/
def Components.flattenAll (c : Components) (location : String) (chain : Chain)
    (branches : List SchemaNode) : Flattened :=
  match branches with
  | [] => {}
  | b :: rest => (flatten c location chain b).append (flattenAll c location chain rest)
termination_by (weightBeyond SchemaNode.size chain.names c.schemas + sizeOfBranches branches, 1)
decreasing_by
  · simp only [sizeOfBranches]
    by_cases h : sizeOfBranches rest = 0
    · rw [h]
      exact Prod.Lex.right _ (by omega)
    · exact Prod.Lex.left _ _ (by omega)
  · have := b.size_pos
    apply Prod.Lex.left
    simp only [sizeOfBranches]
    omega

end

/-- What a schema stands for when it is merged, if it says so. -/
def SchemaBody.mergeKind (s : Schema) : Option MergeKind :=
  match s.primaryType with
  | some .object => some .object
  | some t => some (.value t)
  | none => if s.properties.isEmpty then none else some .object

/-- Whether a schema stands for a value that is no object. -/
def SchemaBody.isValue (s : Schema) : Bool :=
  match s.mergeKind with
  | some (.value _) => true
  | _ => false

/-- What has been merged so far. -/
structure Merged where
  /-- What the schemas stand for. -/
  kind : Option MergeKind := none
  /-- The properties in order of first appearance, each with its last schema. -/
  properties : List (String × SchemaNode) := []
  /-- The properties that must be present. -/
  required : List String := []
  /-- The first schema that stands for a value. -/
  value : Option Schema := none
  /-- The first discriminator. -/
  discriminator : Option ContractDiscriminator := none

namespace Merged

/-- The fault of merging a schema into what has been merged. -/
def fault? (m : Merged) (s : Schema) : Option SchemaFault :=
  if s.isUnion || s.isEnum then some .unmergeable
  else
    match m.kind, s.mergeKind with
    | some seen, some kind => if seen = kind then none else some (.mixedKinds seen kind)
    | _, _ => none

/-- Merges one more schema. -/
def add (m : Merged) (s : Schema) : Merged where
  kind := m.kind.or s.mergeKind
  properties := s.properties.foldl (fun acc e => setEntry e.1 e.2 acc) m.properties
  required := m.required ++ s.required
  value := m.value.or (if s.isValue then some s else none)
  discriminator := m.discriminator.or s.discriminator

/-- Merges schemas in order. -/
def addAll (location : String) (m : Merged) : List Schema → Except ResolveError Merged
  | [] => .ok m
  | s :: rest =>
    match m.fault? s with
    | some fault => .error (.malformed location fault)
    | none => (m.add s).addAll location rest

/-- The merged properties. -/
def toProperties (m : Merged) : List Property :=
  m.properties.map fun (name, node) => { name, node, required := m.required.contains name }

end Merged

/-- Merges an all-of. A fault of the schemas that can be found comes before a branch that
cannot. -/
def Components.merge (c : Components) (location : String) (s : Schema) :
    Except ResolveError Merged := do
  let found := c.flatten location .empty (.inline s)
  let merged ← ({} : Merged).addAll location found.schemas
  match found.stop with
  | some e => .error e
  | none => .ok merged

end ApiModel
