import ApiModel.Proofs.Contract.Respelling
import ApiModel.Proofs.Document.Entries

/-!
# Contracts whose maps stand in another order

A map is compared by its entries. So two contracts are the same if they differ in the order only in
which the entries of their maps stand, at any depth: of the properties of a schema, the mapping of a
discriminator, the content of a message, the responses of an operation, the paths and the reusable
parts.

## Main definitions

* `SchemaNode.Reordered`: a schema position.
* `Parameter.Reordered`, `RequestBody.Reordered`, `Response.Reordered`, `Operation.Reordered`,
  `PathItem.Reordered`: the parts of an interface.
* `Contract.Reordered`: a contract.
-/

namespace ApiModel

/-! ### Schemas -/

/-- A discriminator whose mapping stands in another order. -/
inductive ContractDiscriminator.Reordered : ContractDiscriminator → ContractDiscriminator → Prop
  | mk {d : ContractDiscriminator} {mapping : List (String × String)}
      (h : SameEntries Eq d.mapping mapping) : Reordered d { d with mapping }

/-- A position in which any maps, at any depth, stand in another order. -/
inductive SchemaNode.Reordered : SchemaNode → SchemaNode → Prop
  | ref (pointer : String) : Reordered (ref pointer) (ref pointer)
  | inline {s : Schema} {moved properties : List (String × SchemaNode)}
      {additionalProperties : Option (Additional SchemaNode)} {items : Option SchemaNode}
      {allOf oneOf anyOf : List SchemaNode} {discriminator : Option ContractDiscriminator}
      (hmoved : s.properties.Perm moved)
      (hproperties : List.Forall₂ (Keyed Reordered) moved properties)
      (hadditional : Option.Rel (Additional.Rel Reordered) s.additionalProperties
        additionalProperties)
      (hitems : Option.Rel Reordered s.items items)
      (hallOf : List.Forall₂ Reordered s.allOf allOf)
      (honeOf : List.Forall₂ Reordered s.oneOf oneOf)
      (hanyOf : List.Forall₂ Reordered s.anyOf anyOf)
      (hdiscriminator : Option.Rel ContractDiscriminator.Reordered s.discriminator discriminator) :
      Reordered (inline s) (inline
        { s with properties, additionalProperties, items, allOf, oneOf, anyOf, discriminator })

/-! ### Parts of an interface -/

/-- A parameter in whose schema maps stand in another order. -/
inductive Parameter.Reordered : Parameter → Parameter → Prop
  | mk {q : Parameter} {schema : Option SchemaNode}
      (h : Option.Rel SchemaNode.Reordered q.schema schema) : Reordered q { q with schema }

/-- The content of a media type in whose schema maps stand in another order. -/
inductive MediaType.Reordered : MediaType → MediaType → Prop
  | mk {media : MediaType} {schema : Option SchemaNode}
      (h : Option.Rel SchemaNode.Reordered media.schema schema) : Reordered media { schema }

/-- Content in which maps stand in another order. -/
abbrev Content.Reordered : Content → Content → Prop := SameEntries MediaType.Reordered

/-- The body of a request in which maps stand in another order. -/
inductive RequestBody.Reordered : RequestBody → RequestBody → Prop
  | mk {body : RequestBody} {content : Content} (h : Content.Reordered body.content content) :
      Reordered body { body with content }

/-- A response in which maps stand in another order. -/
inductive Response.Reordered : Response → Response → Prop
  | mk {response : Response} {content : Content}
      (h : Content.Reordered response.content content) :
      Reordered response { response with content }

/-- Parameters in which maps stand in another order. -/
abbrev ReorderedParameters :
    List (Referable Parameter) → List (Referable Parameter) → Prop :=
  List.Forall₂ (Referable.Rel Parameter.Reordered)

/-- An operation in which maps stand in another order. -/
inductive Operation.Reordered : Operation → Operation → Prop
  | mk {op : Operation} {parameters : List (Referable Parameter)}
      {requestBody : Option (Referable RequestBody)} {responses : Responses}
      (hparameters : ReorderedParameters op.parameters parameters)
      (hrequestBody : Option.Rel (Referable.Rel RequestBody.Reordered) op.requestBody requestBody)
      (hresponses : SameEntries (Referable.Rel Response.Reordered) op.responses responses) :
      Reordered op { op with parameters, requestBody, responses }

/-- A path in which maps stand in another order. -/
inductive PathItem.Reordered : PathItem → PathItem → Prop
  | mk {item : PathItem} {parameters : List (Referable Parameter)}
      {operation? : Method → Option Operation}
      (hparameters : ReorderedParameters item.parameters parameters)
      (hoperation : ∀ m, Option.Rel Operation.Reordered (item.operation? m) (operation? m)) :
      Reordered item { parameters, operation? }

/-- Components in which maps stand in another order. -/
inductive Components.Reordered : Components → Components → Prop
  | mk {c c' : Components}
      (hschemas : SameEntries SchemaNode.Reordered c.schemas c'.schemas)
      (hparameters : SameEntries (Referable.Rel Parameter.Reordered) c.parameters c'.parameters)
      (hrequestBodies : SameEntries (Referable.Rel RequestBody.Reordered) c.requestBodies
        c'.requestBodies)
      (hresponses : SameEntries (Referable.Rel Response.Reordered) c.responses c'.responses) :
      Reordered c c'

/-- The same contract, but for the order in which its maps stand, at any depth. -/
inductive Contract.Reordered : Contract → Contract → Prop
  | mk {c : Contract} {paths : List (String × PathItem)} {components : Components}
      (hpaths : SameEntries PathItem.Reordered c.paths paths)
      (hcomponents : c.components.Reordered components) :
      Reordered c { c with paths, components }

end ApiModel
