import ApiModel.Profile.Basic
import ApiModel.Target.Operation

/-!
# Imports

A file imports what the types in it ask for: targets that are no primitives, defaults, and
models. A model is not imported into its own file, nor into the file of any model where the
platform has them share a namespace.

## Main definitions

* `ImportScope`: the file for which imports are collected.
* `ImportScope.ofTypes`: the imports for types, sorted and without repetition.
* `Profile.modelImports`, `Profile.groupImports`: the imports of a model and of a group.
-/

namespace ApiModel

/-- The file for which imports are collected. -/
inductive ImportScope where
  | model (name : String)
  | api
  deriving DecidableEq, Repr

/-- Puts a text into a sorted list, unless it is there. -/
def insertSorted (text : String) : List String → List String
  | [] => [text]
  | t :: rest =>
    if text < t then text :: t :: rest
    else if text = t then t :: rest
    else t :: insertSorted text rest

/-- The texts sorted and without repetition. -/
def sortTexts (texts : List String) : List String :=
  texts.foldl (fun sorted t => insertSorted t sorted) []

namespace ImportScope

variable (scope : ImportScope) (p : Profile)

/-- The import of a model. -/
def ofModel (name : String) : Option String :=
  match scope with
  | model own => if own = name ∨ p.modelsShareNamespace then none else p.importOfModel name
  | api => p.importOfModel name

/-- What a type asks for apart from the types inside it. -/
def ofNode (t : ResolvedType) : List String :=
  (if t.target.primitive then [] else t.target.importName.toList) ++
    (match t.defaultValue with
      | some d => d.imports
      | none => []) ++
    (match t.kind with
      | .model name => (scope.ofModel p name).toList
      | _ => [])

mutual

/-- What a type asks for. -/
def ofType : ResolvedType → List String
  | ⟨name, target, kind, nullability, default⟩ =>
    scope.ofNode p ⟨name, target, kind, nullability, default⟩ ++ ofKind kind

/-- What the types inside a type ask for. -/
def ofKind : TypeKind ResolvedType → List String
  | .array inner | .map inner | .async inner => ofType inner
  | .union ⟨members, _⟩ => ofMembers members
  | .primitive | .any | .void | .response | .model _ | .enum _ => []

/-- What the members of a union ask for. -/
def ofMembers : List ResolvedType → List String
  | [] => []
  | t :: rest => ofType t ++ ofMembers rest

end

/-- The imports for types, sorted and without repetition. -/
def ofTypes (types : List ResolvedType) : List String :=
  sortTexts (types.flatMap (scope.ofType p))

end ImportScope

/-- The imports of a model, its parent included. -/
def Profile.modelImports (p : Profile) (m : Model) : List String :=
  let scope := ImportScope.model m.name.pascalCase
  let imports := scope.ofTypes p m.referencedTypes
  match m.parent.bind (scope.ofModel p) with
  | some parent => insertSorted parent imports
  | none => imports

/-- The imports of a group. -/
def Profile.groupImports (p : Profile) (g : ApiGroup) : List String :=
  ImportScope.api.ofTypes p (g.operations.flatMap ApiOperation.referencedTypes)

end ApiModel
