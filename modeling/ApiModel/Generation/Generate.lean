import ApiModel.Generation.Imports
import ApiModel.Generation.Registry
import ApiModel.Resolution.Operation

/-!
# Generating the model of a contract

Every named schema and every operation is resolved on its own. The models that they promote
are then taken into one registry, in the order of the contract, and whatever refers to a model
that had to be renamed follows.

Since nothing that is resolved depends on what else is, all of it may be resolved at once, as
long as the answers are taken in order. An error is different: here it is that of the first
schema or operation in order that cannot be resolved, but where several cannot, whoever resolves
them at once may come upon any of their errors.

## Main definitions

* `Resolver.builtModels`, `Resolver.builtOperations`: what is resolved on its own.
* `takeModels`, `takeOperations`: what follows the registry.
* `generate`: the model of a contract.
-/

namespace ApiModel

/-- The models of the named schemas, each with the models that it promotes. -/
def Resolver.builtModels (r : Resolver) : Except ResolveError (List (Model × List Model)) :=
  r.components.schemas.mapM fun (name, node) => r.run (r.component name node)

/-- The operations, each with the models that it promotes. -/
def Resolver.builtOperations (r : Resolver) (endpoints : List Endpoint) :
    Except ResolveError (List (ApiOperation × List Model)) :=
  endpoints.mapM fun e => r.run (r.operation e)

/-- Takes models with what they promote. -/
def takeModels (p : Profile) (registry : Registry) :
    List (Model × List Model) → List Model × Registry
  | [] => ([], registry)
  | (m, promoted) :: rest =>
    let (renames, registry) := registry.adopt p promoted
    let (models, registry) := takeModels p registry rest
    (renames.model p m :: models, registry)

/-- An operation under another name than it asks for. -/
def ApiOperation.named (op : ApiOperation) (name : String) : ApiOperation :=
  if name = op.name.camelCase then op else { op with name := Name.ofText name }

/-- Takes operations with what they promote. Their names are made unique. -/
def takeOperations (p : Profile) (registry : Registry) (names : Allocator) :
    List (ApiOperation × List Model) → List ApiOperation × Registry
  | [] => ([], registry)
  | (op, promoted) :: rest =>
    let (renames, registry) := registry.adopt p promoted
    let (name, names) := names.claim op.name.camelCase
    let (operations, registry) := takeOperations p registry names rest
    ((renames.operation p op).named name :: operations, registry)

/-- The model of a contract. -/
def generate (c : Contract) (p : Profile) (flags : Flags) :
    Except ResolveError TargetModel := do
  let r : Resolver := { components := c.components, profile := p, flags }
  let builtModels ← r.builtModels
  let builtOperations ← r.builtOperations c.endpoints
  let registry := Registry.initial c.components.schemaNames
  let (models, registry) := takeModels p registry builtModels
  let (operations, registry) := takeOperations p registry .empty builtOperations
  return {
    info := c.info
    servers := c.servers
    target := p.id
    flags
    models := (models ++ registry.models).map fun m => { m with imports := p.modelImports m }
    groups := (groupOperations p operations).map fun g =>
      { g with imports := p.groupImports g } }

end ApiModel
