import ApiModel.Proofs.Generation.Output
import ApiModel.Proofs.Resolution.Failing

/-!
# Reports of cycles

Where the components of a contract do not lead back to themselves, generating reports a cycle only
by mistake: a promoted model happens to have the name of a named schema, which is not in
`PascalCase`, and extends a schema of which that one is a parent. Where the name of every named
schema is in `PascalCase` there is no such report. Schemas may point to one schema any number of
times, and on any number of ways.

## Main results

* `falseReport_of_generate`: a report of a cycle where there is none is a mistake about a name.
* `generate_ne_circular`: where there is no cycle, generating reports none, or makes this mistake.
* `false_report`: a contract for which it does.
-/

namespace ApiModel

section Output

variable {c : Contract} {p : Profile} {flags : Flags}

/-- When generating fails, resolving a named schema or an operation does. -/
theorem exists_of_generate_error {e : ResolveError} (h : generate c p flags = .error e) :
    (∃ name node, (name, node) ∈ c.components.schemas ∧
      (c.resolver p flags).run ((c.resolver p flags).component name node) = .error e) ∨
    ∃ endpoint ∈ c.endpoints,
      (c.resolver p flags).run ((c.resolver p flags).operation endpoint) = .error e := by
  simp only [generate, bind, Except.bind, pure, Except.pure] at h
  split at h
  next e' hbuilt =>
    obtain rfl : e' = e := Except.error.inj h
    obtain ⟨⟨name, node⟩, hmem, hrun⟩ := exists_of_mapM_error hbuilt
    exact .inl ⟨name, node, hmem, hrun⟩
  next built _ =>
    split at h
    next e' hops =>
      obtain rfl : e' = e := Except.error.inj h
      exact .inr (exists_of_mapM_error hops)
    next => cases h

/-- A report of a cycle where there is none is a mistake about a name. -/
theorem falseReport_of_generate (hc : c.components.Acyclic) {e : ResolveError}
    (h : generate c p flags = .error e) (hcircular : e.isCircular = true) :
    c.components.FalseReport e := by
  have hc' : (c.resolver p flags).components.Acyclic := hc
  rcases exists_of_generate_error h with ⟨name, node, hmem, hrun⟩ | ⟨endpoint, -, hrun⟩
  · exact Resolver.falseReport_of_run (Resolver.onlyFalseReports_component hc' hmem) hrun hcircular
  · exact Resolver.falseReport_of_run (Resolver.onlyFalseReports_operation hc' endpoint) hrun
      hcircular

/-- Where the components of a contract do not lead back to themselves, generating reports no cycle,
unless it takes the name of a promoted model for that of a named schema. -/
theorem generate_ne_circular (hc : c.components.Acyclic) :
    (∀ location chain, generate c p flags ≠ .error (.circular location chain)) ∨
      ∃ location chain, generate c p flags = .error (.circular location chain) ∧
        c.components.FalseReport (.circular location chain) := by
  by_cases hreport : ∃ location chain, generate c p flags = .error (.circular location chain)
  · obtain ⟨location, chain, h⟩ := hreport
    exact .inr ⟨location, chain, h, falseReport_of_generate hc h rfl⟩
  · exact .inl fun location chain h => hreport ⟨location, chain, h⟩

end Output

/-! ### Schemas that extend each other -/

/-- A contract with named schemas only has no cycle if their pointers only descend. -/
theorem Contract.acyclic_ofSchemas {schemas : List (String × SchemaNode)} (rank : String → Nat)
    (h : descends "schemas" SchemaNode.pointers schemas rank = true) :
    (ofSchemas schemas).components.Acyclic where
  schemas := noCycle_of_descends rank h
  parameters := noCycle_of_descends rank rfl
  requestBodies := noCycle_of_descends rank rfl
  responses := noCycle_of_descends rank rfl

/-- Two schemas extend one, and a third one merges both and points to one of them again. -/
def diamond : List (String × SchemaNode) :=
  [("Both", .all [.ref "#/components/schemas/Left", .ref "#/components/schemas/Right",
      .objectWith "other" (.ref "#/components/schemas/Left")]),
   ("Left", .all [.ref "#/components/schemas/Base", .objectWith "left" .text]),
   ("Right", .all [.ref "#/components/schemas/Base", .objectWith "right" .text]),
   ("Base", .objectWith "id" .text)]

/-- Ways that meet again are no cycle. -/
theorem diamond_ne_circular : (Contract.ofSchemas diamond).components.Acyclic ∧
    ∀ location chain, generate (.ofSchemas diamond) .jaxrsSpec {} ≠
      .error (.circular location chain) := by
  have hc : (Contract.ofSchemas diamond).components.Acyclic :=
    Contract.acyclic_ofSchemas (fun name => ["Base", "Left", "Right", "Both"].idxOf name)
      (by decide +kernel)
  refine ⟨hc, fun location chain h => ?_⟩
  rcases generate_ne_circular hc with hnone | ⟨_, _, _, hfalse⟩
  · exact hnone location chain h
  · -- every name is in `PascalCase`
    obtain ⟨name, -, -, -, -, -, hname, hother, -⟩ := hfalse
    have hall : ∀ n ∈ (Contract.ofSchemas diamond).components.schemaNames,
        n ∈ (Contract.ofSchemas diamond).components.modelNames := by decide +kernel
    exact absurd (hall name hname) hother

/-- An object schema `A` has a property `b`, which extends the schema `AB`. -/
def lookalike : List (String × SchemaNode) :=
  [("A", .objectWith "b" (.all [.ref "#/components/schemas/AB", .objectWith "more" .text])),
   ("AB", .objectWith "value" .text)]

/-- The property `b` of `A` is promoted under the name `AB`, since only the name `Ab` is taken. It
extends the schema `AB`, and is taken for it. -/
theorem false_report : (Contract.ofSchemas lookalike).components.Acyclic ∧
    generate (.ofSchemas lookalike) .jaxrsSpec {} =
      .error (.circular "#/components/schemas/A/properties/b" ["AB", "AB"]) := by
  refine ⟨Contract.acyclic_ofSchemas (fun name => ["AB", "A"].idxOf name)
    (by decide +kernel), ?_⟩
  have hrun : (match generate (.ofSchemas lookalike) .jaxrsSpec {} with
      | .error (.circular location chain) => some (location, chain)
      | _ => none) = some ("#/components/schemas/A/properties/b", ["AB", "AB"]) := by
    decide +kernel
  split at hrun
  next location chain h =>
    obtain ⟨rfl, rfl⟩ := Prod.mk.inj (Option.some.inj hrun)
    exact h
  next => cases hrun

end ApiModel
