import ApiModel.Proofs.Generation.Output
import ApiModel.Proofs.Name.Identifier
import ApiModel.Proofs.Resolution.EnumMembers

/-!
# The identifiers in the output

The fields of a model, the parameters of an operation and the members of an enum get identifiers that
are distinct within their scope, and each of which the platform accepts. They are made of names by the
rules of the profile, and are made unique by numbers; the fallback member of an enum gets the
identifier of the profile, or that with a number where it is taken.

## Main definitions

* `Profile.AcceptsAll`: identifiers of one scope.
* `Resolver.identifierLaw`: the law about identifiers.

## Main results

* `Profile.Escaping.acceptsAll_enumType`: the members of an enum.
* `identifiers_of_generate`: all identifiers in the output.
-/

namespace ApiModel

namespace Profile

variable {p : Profile}

/-- The identifiers of one scope: they are distinct, and the platform accepts each of them. -/
structure AcceptsAll (p : Profile) (identifiers : List String) : Prop where
  nodup : identifiers.Nodup
  accepts : ∀ identifier ∈ identifiers, p.Accepts identifier

theorem acceptsAll_nil : p.AcceptsAll [] := ⟨List.nodup_nil, by simp⟩

/-- Accepted identifiers stay so when they are made unique. -/
theorem Escaping.acceptsAll_uniqueNames (h : p.Escaping) {bases : List String}
    (hbases : ∀ base ∈ bases, p.Accepts base) : p.AcceptsAll (Allocator.uniqueNames bases) :=
  ⟨Allocator.nodup_uniqueNames bases,
    Allocator.uniqueNames_induction (fun _ n hname => h.accepts_numbered hname n) hbases⟩

/-! ### The members of an enum -/

theorem Escaping.acceptsAll_enumIdentifiers (h : p.Escaping) (values : List Json.Value) :
    p.AcceptsAll ((p.enumIdentifiers values).map Prod.snd) := by
  unfold enumIdentifiers
  dsimp only
  rw [List.map_snd_zip (by simp)]
  refine h.acceptsAll_uniqueNames fun base hbase => ?_
  obtain ⟨value, -, rfl⟩ := List.mem_map.mp hbase
  exact h.accepts_identifier _ _

/-- The fallback member gets an identifier that no other member has. -/
theorem Escaping.acceptsAll_fallback (h : p.Escaping) {members : List EnumMember}
    (hmembers : p.AcceptsAll (members.map EnumMember.identifier)) :
    p.AcceptsAll ((members ++ [p.fallbackMember members]).map EnumMember.identifier) := by
  set taken := Allocator.empty.reserve (members.map EnumMember.identifier) with htaken
  have hfallback : (p.fallbackMember members).identifier = taken.grant p.naming.fallbackMember := rfl
  have hnew : taken.grant p.naming.fallbackMember ∉ members.map EnumMember.identifier := by
    simpa [htaken] using taken.grant_notMem p.naming.fallbackMember
  have haccepts : p.Accepts (taken.grant p.naming.fallbackMember) := by
    rcases taken.grant_eq_or_numbered p.naming.fallbackMember with heq | ⟨n, heq⟩ <;> rw [heq]
    · exact h.fallback
    · exact h.accepts_numbered h.fallback n
  rw [List.map_append, List.map_singleton, hfallback]
  refine ⟨?_, fun identifier hmem => ?_⟩
  · rw [← List.concat_eq_append]
    exact hmembers.nodup.concat hnew
  · rcases List.mem_append.mp hmem with hmem | hmem
    · exact hmembers.accepts identifier hmem
    · exact List.mem_singleton.mp hmem ▸ haccepts

/-- The members of an enum, the fallback member included. -/
theorem Escaping.acceptsAll_enumType (h : p.Escaping) {flags : Flags} {s : Schema}
    {location : String} {e : EnumType} (he : p.enumType flags s location = .ok e) :
    p.AcceptsAll (e.members.map EnumMember.identifier) := by
  obtain ⟨own, hentries, -, hmembers⟩ := exists_members_of_enumType he
  have hidentifiers : own.map EnumMember.identifier =
      (p.enumIdentifiers s.enumValues).map Prod.snd := by
    rw [← hentries, List.map_map]
    rfl
  have haccepts : p.AcceptsAll (own.map EnumMember.identifier) := by
    rw [hidentifiers]
    exact h.acceptsAll_enumIdentifiers s.enumValues
  rw [hmembers]
  split
  · exact h.acceptsAll_fallback haccepts
  · rwa [List.append_nil]

end Profile

/-! ### Models and operations -/

/-- The fields and the enums of a model have accepted identifiers. -/
structure Model.AcceptedBy (p : Profile) (m : Model) : Prop where
  fields : p.AcceptsAll (m.fields.map Field.identifier)
  enums : ∀ e ∈ m.enums, p.AcceptsAll (e.members.map EnumMember.identifier)

/-- The parameters and the enums of an operation have accepted identifiers. -/
structure ApiOperation.AcceptedBy (p : Profile) (op : ApiOperation) : Prop where
  parameters : p.AcceptsAll (op.parameters.map ApiParameter.identifier)
  enums : ∀ e ∈ op.enums, p.AcceptsAll (e.members.map EnumMember.identifier)

namespace Resolver

variable {r : Resolver}

theorem AreFields.acceptsAll {T : ResolvedType → Prop} {owner : String}
    {properties : List Property} {fields : List Field} (hr : r.profile.Escaping)
    (h : r.AreFields T owner properties fields) :
    r.profile.AcceptsAll (fields.map Field.identifier) := by
  obtain ⟨asked, hasked, rfl⟩ := h
  rw [map_identifier_numberFields]
  refine hr.acceptsAll_uniqueNames fun base hbase => ?_
  obtain ⟨f, hf, rfl⟩ := List.mem_map.mp hbase
  obtain ⟨q, -, hq⟩ := exists_of_forall₂ hasked hf
  rw [hq.identifier]
  exact hr.accepts_identifier _ _

theorem IsModel.acceptedBy {name : Name} {m : Model} (hr : r.profile.Escaping)
    (h : r.IsModel (fun t => ∀ e ∈ t.enums, r.profile.AcceptsAll
      (e.members.map EnumMember.identifier)) name m) : m.AcceptedBy r.profile where
  fields := by
    cases h with
    | object _ hfields => exact hfields.acceptsAll hr
    | enum | union | synonym => exact Profile.acceptsAll_nil
  enums e he := by
    rcases List.mem_append.mp he with he | he
    · cases h with
      | enum henum =>
        obtain rfl := List.mem_singleton.mp he
        exact hr.acceptsAll_enumType henum
      | object | union | synonym => cases he
    · obtain ⟨t, ht, he⟩ := List.mem_flatMap.mp he
      exact h.forall_collect t ht e he

theorem IsOperation.acceptedBy {op : ApiOperation} (hr : r.profile.Escaping)
    (h : r.IsOperation (fun t => ∀ e ∈ t.enums, r.profile.AcceptsAll
      (e.members.map EnumMember.identifier)) op) : op.AcceptedBy r.profile where
  parameters := by
    obtain ⟨declared, asked, hasked, hparameters⟩ := h.parameters
    rw [hparameters, map_identifier_numberParameters]
    refine hr.acceptsAll_uniqueNames fun base hbase => ?_
    obtain ⟨q, hq, rfl⟩ := List.mem_map.mp hbase
    obtain ⟨_, -, hq'⟩ := exists_of_forall₂ hasked hq
    rw [hq'.identifier]
    exact hr.accepts_identifier _ _
  enums e he := by
    obtain ⟨t, ht, he⟩ := List.mem_flatMap.mp he
    exact h.forall_collect hollow_enumType t ht e he

/-- The law about identifiers. -/
def identifierLaw (hr : r.profile.Escaping) : r.Law :=
  .collecting silent_enumType
    (fun _ e => r.profile.AcceptsAll (e.members.map EnumMember.identifier))
    (fun _ m => m.AcceptedBy r.profile)
    (fun _ h => h)
    (fun _ _ he => nomatch he)
    (fun _ _ he => nomatch he)
    (fun h _ he => List.mem_singleton.mp he ▸ hr.acceptsAll_enumType h)
    (fun h => h.acceptedBy hr)

end Resolver

/-! ### Renaming keeps identifiers -/

theorem Renames.identifiers_model (ρ : Renames) (p : Profile) (m : Model) :
    (ρ.model p m).fields.map Field.identifier = m.fields.map Field.identifier := by
  rw [model]
  split <;> simp [field, Function.comp_def]

theorem Renames.identifiers_operation (ρ : Renames) (p : Profile) (op : ApiOperation) :
    (ρ.operation p op).parameters.map ApiParameter.identifier =
      op.parameters.map ApiParameter.identifier := by
  rw [operation]
  split <;> simp [Function.comp_def]

namespace Model.AcceptedBy

variable {p q : Profile} {m : Model}

theorem renamed (h : m.AcceptedBy p) (ρ : Renames) : (ρ.model q m).AcceptedBy p where
  fields := by
    rw [Renames.identifiers_model]
    exact h.fields
  enums := by
    rw [Renames.enums_model]
    exact h.enums

theorem named (h : m.AcceptedBy p) (name : String) : (m.named name).AcceptedBy p where
  fields := by simpa [Model.named, Function.comp_def] using h.fields
  enums := by
    have henums : (m.named name).enums = m.enums := by
      simp [Model.enums, Model.named, referencedTypes, shapeTypes, Function.comp_def]
    rw [henums]
    exact h.enums

theorem imports (h : m.AcceptedBy p) (imports : List String) :
    ({ m with imports } : Model).AcceptedBy p :=
  ⟨h.fields, h.enums⟩

end Model.AcceptedBy

namespace ApiOperation.AcceptedBy

variable {p q : Profile} {op : ApiOperation}

theorem renamed (h : op.AcceptedBy p) (ρ : Renames) : (ρ.operation q op).AcceptedBy p where
  parameters := by
    rw [Renames.identifiers_operation]
    exact h.parameters
  enums := by
    rw [Renames.enums_operation]
    exact h.enums

theorem named (h : op.AcceptedBy p) (name : String) : (op.named name).AcceptedBy p := by
  rw [ApiOperation.named]
  split
  · exact h
  · exact ⟨h.parameters, h.enums⟩

end ApiOperation.AcceptedBy

/-! ### The output -/

/-- Accepted identifiers stay so while models are taken into a registry. -/
theorem Registry.Sound.acceptedBy_adopt {reg : Registry} {p q : Profile}
    {schemaNames : List String} {promoted : List Model} (h : reg.Sound schemaNames)
    (hreg : ∀ e ∈ reg.entries, e.2.AcceptedBy q) (hpromoted : ∀ m ∈ promoted, m.AcceptedBy q) :
    ∀ e ∈ (reg.adopt p promoted).2.entries, e.2.AcceptedBy q :=
  h.forall_adopt (fun _ name hm => hm.named name) (fun _ ρ hm => hm.renamed ρ) hreg hpromoted

/-- Every step of the generation keeps identifiers accepted. -/
def acceptedLaw (c : Contract) {p : Profile} (flags : Flags) (hp : p.Escaping) :
    GenerationLaw c p flags where
  registry reg := reg.Sound c.components.schemaNames ∧ ∀ e ∈ reg.entries, e.2.AcceptedBy p
  model _ m := m.AcceptedBy p
  operation _ op := op.AcceptedBy p
  initial := ⟨Registry.sound_initial _, by simp [Registry.initial]⟩
  model_mono _ h := h
  operation_mono _ h := h
  component _ hreg hrun := by
    obtain ⟨hm, hpromoted⟩ := Resolver.Law.run_component (Resolver.identifierLaw hp) hrun
    refine ⟨⟨hreg.1.adopt p _, hreg.1.acceptedBy_adopt hreg.2 fun m' hm' => ?_⟩,
      (hm.acceptedBy hp).renamed _⟩
    obtain ⟨_, -, h⟩ := hpromoted.exists_model hm'
    exact h
  endpoint _ hreg hrun := by
    obtain ⟨hop, hpromoted⟩ := Resolver.Law.run_operation (Resolver.identifierLaw hp) hrun
    refine ⟨⟨hreg.1.adopt p _, hreg.1.acceptedBy_adopt hreg.2 fun m' hm' => ?_⟩,
      fun name => ((hop.acceptedBy hp).renamed _).named name⟩
    obtain ⟨_, -, h⟩ := hpromoted.exists_model hm'
    exact h

/-- The fields of each model, the parameters of each operation and the members of each enum in the
output have identifiers that are distinct in their scope and that the platform accepts. -/
theorem identifiers_of_generate {id : String} {p : Profile} (hp : Profile.builtin? id = some p)
    {c : Contract} {flags : Flags} {out : TargetModel} (h : generate c p flags = .ok out) :
    (∀ m ∈ out.models, p.AcceptsAll (m.fields.map Field.identifier)) ∧
    (∀ op ∈ out.operations, p.AcceptsAll (op.parameters.map ApiParameter.identifier)) ∧
    ∀ e ∈ out.enums, p.AcceptsAll (e.members.map EnumMember.identifier) := by
  obtain ⟨reg, models, ⟨-, hreg⟩, hout, -, hmodels, hops⟩ :=
    (acceptedLaw c flags (Profile.escaping_of_builtin hp)).holds h
  have haccepted : ∀ m ∈ out.models, m.AcceptedBy p := by
    intro m hm
    rw [hout] at hm
    obtain ⟨m', hm', rfl⟩ := List.mem_map.mp hm
    rcases List.mem_append.mp hm' with hm' | hm'
    · exact (hmodels m' hm').imports _
    · obtain ⟨e, he, rfl⟩ := List.mem_map.mp hm'
      exact (hreg e he).imports _
  refine ⟨fun m hm => (haccepted m hm).fields, fun op hop => (hops op hop).parameters,
    fun e he => ?_⟩
  rcases List.mem_append.mp he with he | he
  · obtain ⟨m, hm, he⟩ := List.mem_flatMap.mp he
    exact (haccepted m hm).enums e he
  · obtain ⟨op, hop, he⟩ := List.mem_flatMap.mp he
    exact (hops op hop).enums e he

/-- A reserved word, a leading digit and two properties of one identifier. -/
theorem identifiers_of_clashing_properties :
    let text : SchemaNode := .inline { type := some (.single .string) }
    let s : Schema :=
      { type := some (.single .object)
        properties := [("class", text), ("1st", text), ("a-b", text), ("aB", text)] }
    let c : Contract :=
      { version := "3.0.3"
        info := { title := "clashes", version := "1" }
        components := { schemas := [("Thing", .inline s)] } }
    ∃ out, generate c .jaxrsSpec {} = .ok out ∧
      (out.models.map fun m => m.fields.map Field.identifier) = [["_class", "_1st", "aB", "aB2"]] ∧
      ∀ m ∈ out.models, Profile.jaxrsSpec.AcceptsAll (m.fields.map Field.identifier) := by
  intro text s c
  have hrun : (generate c .jaxrsSpec {}).toOption.map
      (fun out => out.models.map fun m => m.fields.map Field.identifier) =
        some [["_class", "_1st", "aB", "aB2"]] := by decide +kernel
  have hp : Profile.builtin? "jaxrs_spec" = some .jaxrsSpec := rfl
  rcases h : generate c .jaxrsSpec {} with e | out <;> rw [h] at hrun
  · cases hrun
  · exact ⟨out, rfl, Option.some.inj hrun, (identifiers_of_generate hp h).1⟩

end ApiModel
