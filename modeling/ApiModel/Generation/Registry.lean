import ApiModel.Generation.Renaming
import ApiModel.Name.Allocator

/-!
# The registry of promoted models

Schemas and operations promote models independently of each other, so two of them may
promote models of one name. The registry takes the promoted models one list after the other:
a model that is there already is shared, and a different model under a taken name is renamed.

## Main definitions

* `Registry`: the models that have been taken.
* `Registry.adopt`: takes a list of promoted models, and answers their new names.
-/

namespace ApiModel

/-- The promoted models that have been taken, each under a name of its own. -/
structure Registry where
  /-- The names that are taken. -/
  names : Allocator := {}
  /-- The models by the name under which they were taken, in order. -/
  entries : List (String × Model) := []

/-- Taking a list of promoted models. -/
structure Adoption where
  /-- The names that are taken. -/
  names : Allocator
  /-- The models that are new, by the name under which they are taken, in order. -/
  added : List (String × Model) := []
  /-- The new names so far. -/
  renames : Renames := []

/-- A model under another name, which is also that of the owner of its fields. -/
def Model.named (m : Model) (name : String) : Model :=
  { m with
    name := Name.ofText name
    fields := m.fields.map fun f => { f with owner := name } }

namespace Registry

variable (p : Profile)

/-- The registry of a contract, in which the names of its schemas are taken. -/
def initial (schemaNames : List String) : Registry where
  names := Allocator.empty.reserve (schemaNames.map fun n => (Name.ofText n).pascalCase)

/-- Takes one promoted model. -/
def adoptOne (known : List (String × Model)) (a : Adoption) (m : Model) : Adoption :=
  let name := m.name.pascalCase
  match (known ++ a.added).lookup name with
  | none => { a with added := a.added ++ [(name, m)] }
  | some existing =>
    if existing == a.renames.model p m then a
    else
      let (fresh, names) := a.names.claim name
      { names
        added := a.added ++ [(fresh, m.named fresh)]
        renames := (name, fresh) :: a.renames }

/-- Takes a list of promoted models. A fresh name must not be one that a later model of the
list has. The models that are new refer to each other under the new names. -/
def adopt (registry : Registry) (promoted : List Model) : Renames × Registry :=
  let held := (promoted.map fun m => m.name.pascalCase).filter fun name =>
    (registry.entries.lookup name).isNone
  let start : Adoption := { names := registry.names.reserve held }
  let a := promoted.foldl (adoptOne p registry.entries) start
  let added := a.added.map fun (name, m) => (name, a.renames.model p m)
  (a.renames, { names := a.names, entries := registry.entries ++ added })

/-- The models in order. -/
def models (registry : Registry) : List Model := registry.entries.map Prod.snd

end Registry

end ApiModel
