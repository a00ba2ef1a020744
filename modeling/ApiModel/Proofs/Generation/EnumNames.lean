import ApiModel.Proofs.Generation.Output
import ApiModel.Proofs.Resolution.EnumNames

/-!
# The names of enums in the output

In the output the types of fields and parameters that are enums are still called after properties
and parameters. What an enum is called after is a text in `PascalCase`, and texts that differ may
be one in `PascalCase`. The identifiers of fields and parameters are kept apart then, and so are
models; the names of enums are not. So in a model, or in an operation, different enums have
different names exactly where what they are called after differs in `PascalCase`.

## Main definitions

* `TypeKind.otherEnum`: two kinds are enums with different members.
* `TellsEnumsApart`: texts by which different enums can be told apart.
* `enumNamesLaw`: every step of the generation keeps what enums are called after.

## Main results

* `enumNames_of_generate`: when the names of enums tell them apart.
-/

namespace ApiModel

/-! ### Enums that are told apart -/

/-- Two kinds are enums with different members. -/
def TypeKind.otherEnum (k l : TypeKind ResolvedType) : Bool :=
  match k, l with
  | .enum e, .enum e' => e.members != e'.members
  | _, _ => false

theorem TypeKind.exists_of_otherEnum {k l : TypeKind ResolvedType} (h : k.otherEnum l = true) :
    (∃ e, k = .enum e) ∧ ∃ e, l = .enum e := by
  rw [otherEnum.eq_def] at h
  split at h
  next e e' => exact ⟨⟨e, rfl⟩, e', rfl⟩
  next => cases h

/-- By their texts different enums in a list can be told apart. -/
def TellsEnumsApart {α : Type} (type : α → ResolvedType) (text : α → String) (l : List α) : Prop :=
  l.Pairwise fun a b => (type a).kind.otherEnum (type b).kind = true → text a ≠ text b

instance {α : Type} (type : α → ResolvedType) (text : α → String) (l : List α) :
    Decidable (TellsEnumsApart type text l) :=
  inferInstanceAs (Decidable (l.Pairwise fun a b =>
    (type a).kind.otherEnum (type b).kind = true → text a ≠ text b))

theorem enumNameOf_inj {text text' : String} : enumNameOf text = enumNameOf text' ↔
    (Name.ofText text).pascalCase = (Name.ofText text').pascalCase :=
  String.append_left_inj "Enum"

/-- Enums that are called after texts can be told apart by their names exactly if they can be told
apart by these texts in `PascalCase`. -/
theorem tellsEnumsApart_iff {α : Type} {type : α → ResolvedType} {text : α → String} {l : List α}
    (h : ∀ a ∈ l, (type a).NamesEnum (enumNameOf (text a))) :
    TellsEnumsApart type (fun a => (type a).name) l ↔
      TellsEnumsApart type (fun a => (Name.ofText (text a)).pascalCase) l := by
  refine List.Pairwise.iff_of_mem fun {a b} ha hb => forall_congr' fun hother => ?_
  obtain ⟨⟨e, he⟩, e', he'⟩ := TypeKind.exists_of_otherEnum hother
  dsimp only
  rw [h a ha e he, h b hb e' he', Ne, Ne, enumNameOf_inj]

/-! ### Every step of the generation -/

section Steps

variable {p : Profile} {ρ : Renames} {m : Model} {op : ApiOperation}

/-- New names are names of models, and no enum is one. -/
theorem ResolvedType.NamesEnum.renamed {name : String} {t : ResolvedType} (h : t.NamesEnum name)
    (ρ : Renames) (p : Profile) : (ρ.type p t).NamesEnum name := by
  intro e he
  obtain ⟨tname, target, kind, nullability, default⟩ := t
  rw [Renames.kind_type] at he
  cases kind with
  | enum e' =>
    simp only [Renames.type]
    exact h e' rfl
  | _ => cases he

theorem Model.NamesEnums.named (h : m.NamesEnums) (name : String) : (m.named name).NamesEnums := by
  intro f hf
  obtain ⟨f', hf', rfl⟩ := List.mem_map.mp hf
  exact h f' hf'

theorem Model.NamesEnums.renamed (h : m.NamesEnums) (ρ : Renames) : (ρ.model p m).NamesEnums := by
  rcases eq_or_ne ρ [] with rfl | hne
  · exact h
  · rw [ρ.model_of_ne_nil p m hne]
    intro f hf
    obtain ⟨f', hf', rfl⟩ := List.mem_map.mp hf
    exact (h f' hf').renamed ρ p

theorem ApiOperation.namesEnum_renamed (h : ∀ q ∈ op.parameters, q.NamesEnum) :
    ∀ q ∈ (ρ.operation p op).parameters, q.NamesEnum := by
  intro q hq
  rw [Renames.operation] at hq
  split at hq
  · exact h q hq
  · obtain ⟨q', hq', rfl⟩ := List.mem_map.mp hq
    exact (h q' hq').renamed ρ p

@[simp] theorem ApiOperation.parameters_named (name : String) :
    (op.named name).parameters = op.parameters := by
  rw [ApiOperation.named]
  split <;> rfl

end Steps

/-- Every step of the generation keeps what enums are called after. -/
def enumNamesLaw (c : Contract) (p : Profile) (flags : Flags) : GenerationLaw c p flags where
  registry reg := reg.Sound c.components.schemaNames ∧ ∀ e ∈ reg.entries, e.2.NamesEnums
  model _ m := m.NamesEnums
  operation _ op := ∀ q ∈ op.parameters, q.NamesEnum
  initial := ⟨Registry.sound_initial _, by simp [Registry.initial]⟩
  model_mono _ h := h
  operation_mono _ h := h
  component _ hreg hrun := by
    obtain ⟨hpromoted, hm⟩ := (Resolver.yields_component _ _).of_run hrun
    exact ⟨⟨hreg.1.adopt p _, hreg.1.forall_adopt (fun _ name hm => hm.named name)
      (fun _ ρ hm => hm.renamed ρ) hreg.2 hpromoted⟩, hm.renamed _⟩
  endpoint _ hreg hrun := by
    obtain ⟨hpromoted, hop⟩ := (Resolver.yields_operation _).of_run hrun
    refine ⟨⟨hreg.1.adopt p _, hreg.1.forall_adopt (fun _ name hm => hm.named name)
      (fun _ ρ hm => hm.renamed ρ) hreg.2 hpromoted⟩, fun name => ?_⟩
    rw [ApiOperation.parameters_named]
    exact ApiOperation.namesEnum_renamed hop

/-! ### The output -/

section Output

variable {c : Contract} {p : Profile} {flags : Flags} {out : TargetModel}

theorem namesEnums_of_generate (h : generate c p flags = .ok out) :
    (∀ m ∈ out.models, m.NamesEnums) ∧ ∀ op ∈ out.operations, ∀ q ∈ op.parameters, q.NamesEnum := by
  obtain ⟨reg, hreg, hmodels, hops, -⟩ := (enumNamesLaw c p flags).holds_each h
  refine ⟨fun m hm => ?_, hops⟩
  obtain ⟨m', hm' | ⟨e, he, rfl⟩, rfl⟩ := hmodels m hm
  · exact hm'
  · exact hreg.2 e he

/-- In every output the fields and parameters that are enums are called after their properties and
parameters. So the enums of a model, and those of an operation, that differ have different names
exactly if their properties, or parameters, differ in `PascalCase`. -/
theorem enumNames_of_generate (h : generate c p flags = .ok out) :
    (∀ m ∈ out.models, (∀ f ∈ m.fields, f.NamesEnum) ∧
      (TellsEnumsApart Field.type (fun f => f.type.name) m.fields ↔
        TellsEnumsApart Field.type (fun f => (Name.ofText f.property).pascalCase) m.fields)) ∧
    ∀ op ∈ out.operations, (∀ q ∈ op.parameters, q.NamesEnum) ∧
      (TellsEnumsApart ApiParameter.type (fun q => q.type.name) op.parameters ↔
        TellsEnumsApart ApiParameter.type (fun q => (Name.ofText q.name).pascalCase)
          op.parameters) := by
  obtain ⟨hmodels, hops⟩ := namesEnums_of_generate h
  exact ⟨fun m hm => ⟨hmodels m hm, tellsEnumsApart_iff (hmodels m hm)⟩,
    fun op hop => ⟨hops op hop, tellsEnumsApart_iff (hops op hop)⟩⟩

end Output

/-! ### Enums after one text -/

/-- One of some texts. -/
def SchemaNode.oneOfTexts (texts : List String) : SchemaNode :=
  .inline { type := some (.single .string), enumValues := texts.map .text }

/-- A contract with an object of two properties, and with an operation of two parameters, which have
different enums. -/
def Contract.choosing (first second : String) : Contract where
  version := "3.0.3"
  info := { title := "choosing", version := "1" }
  paths := [("/pets", { operation? := fun
    | .get => some
        { operationId := some "listPets"
          parameters :=
            [.inline { name := first, location := .query, schema := some (.oneOfTexts ["a"]) },
             .inline { name := second, location := .header, schema := some (.oneOfTexts ["b"]) }] }
    | _ => none })]
  components := { schemas := [("Pet", .inline
    { type := some (.single .object)
      properties := [(first, .oneOfTexts ["a"]), (second, .oneOfTexts ["b"])] })] }

/-- What the enums in an output are called. -/
def TargetModel.enumNames (out : TargetModel) : List (List String) × List (List String) :=
  (out.models.map fun m => m.fields.map fun f => f.type.name,
    out.operations.map fun op => op.parameters.map fun q => q.type.name)

/-- Enums that are called after different texts are told apart. -/
theorem enumNames_of_choosing : ∃ out,
    generate (.choosing "size" "colour") .jaxrsSpec {} = .ok out ∧
    out.enumNames = ([["SizeEnum", "ColourEnum"]], [["SizeEnum", "ColourEnum"]]) ∧
    (∀ m ∈ out.models, TellsEnumsApart Field.type (fun f => f.type.name) m.fields) ∧
    ∀ op ∈ out.operations,
      TellsEnumsApart ApiParameter.type (fun q => q.type.name) op.parameters := by
  have hrun : ∃ out, generate (.choosing "size" "colour") .jaxrsSpec {} = .ok out ∧
      (out.enumNames,
        decide (∀ m ∈ out.models,
          TellsEnumsApart Field.type (fun f => (Name.ofText f.property).pascalCase) m.fields),
        decide (∀ op ∈ out.operations, TellsEnumsApart ApiParameter.type
          (fun q => (Name.ofText q.name).pascalCase) op.parameters)) =
        (([["SizeEnum", "ColourEnum"]], [["SizeEnum", "ColourEnum"]]), true, true) :=
    exists_of_generate (by decide +kernel)
  obtain ⟨out, h, hrun⟩ := hrun
  obtain ⟨hnames, hrest⟩ := Prod.mk.inj hrun
  obtain ⟨hfields, hparameters⟩ := Prod.mk.inj hrest
  obtain ⟨hmodels, hops⟩ := enumNames_of_generate h
  exact ⟨out, h, hnames,
    fun m hm => (hmodels m hm).2.mpr (of_decide_eq_true hfields m hm),
    fun op hop => (hops op hop).2.mpr (of_decide_eq_true hparameters op hop)⟩

/-- Enums that are called after one text in `PascalCase` have one name, whatever their members. -/
theorem shared_enum_name : ∃ out,
    generate (.choosing "pet-name" "pet_name") .jaxrsSpec {} = .ok out ∧
    out.enumNames = ([["PetNameEnum", "PetNameEnum"]], [["PetNameEnum", "PetNameEnum"]]) ∧
    (∃ m ∈ out.models, ¬TellsEnumsApart Field.type (fun f => f.type.name) m.fields) ∧
    ∃ op ∈ out.operations,
      ¬TellsEnumsApart ApiParameter.type (fun q => q.type.name) op.parameters := by
  have hrun : ∃ out, generate (.choosing "pet-name" "pet_name") .jaxrsSpec {} = .ok out ∧
      (out.enumNames,
        decide (∃ m ∈ out.models, ¬TellsEnumsApart Field.type (fun f => f.type.name) m.fields),
        decide (∃ op ∈ out.operations,
          ¬TellsEnumsApart ApiParameter.type (fun q => q.type.name) op.parameters)) =
        (([["PetNameEnum", "PetNameEnum"]], [["PetNameEnum", "PetNameEnum"]]), true, true) :=
    exists_of_generate (by decide +kernel)
  obtain ⟨out, h, hrun⟩ := hrun
  obtain ⟨hnames, hrest⟩ := Prod.mk.inj hrun
  obtain ⟨hfields, hparameters⟩ := Prod.mk.inj hrest
  exact ⟨out, h, hnames, of_decide_eq_true hfields, of_decide_eq_true hparameters⟩

end ApiModel
