import ApiModel.Proofs.Contract.Nesting
import ApiModel.Proofs.Contract.Reordering
import ApiModel.Proofs.Json.Restoring

/-!
# Schemas that are written and read again

A position that is no pointer is written with the fields of its schema, of which none is `$ref`. So
it is not taken for a pointer when it is read again, and each field is found again in what has been
written of it.

## Main definitions

* `Constraints.entries`, `SchemaBody.entries`: the fields of a schema, as they are written.

## Main results

* `SchemaBody.toJson_eq`: a schema is written with its fields.
* `Decode.pointer_ref`, `Decode.pointer_written`: what is a pointer, and what is none.
* `Decode.restores_schema`: a schema is restored if the positions in it are.
* `Decode.restores_schemaNode`: a position is restored.
-/

namespace ApiModel

open Json

/-! ### What is written of a schema -/

/-- What holds for other properties, as it is written. -/
def Additional.toJson : Additional SchemaNode → Value
  | .flag allowed => .bool allowed
  | .schema values => values.toJson

/-- The constraints of a schema, as they are written. -/
def Constraints.entries (c : Constraints) : List (String × Option Value) :=
  [("minimum", c.minimum.map .float), ("maximum", c.maximum.map .float),
    ("exclusiveMinimum", c.exclusiveMinimum.map .float),
    ("exclusiveMaximum", c.exclusiveMaximum.map .float),
    ("minLength", c.minLength.map fun n : Nat => .int n),
    ("maxLength", c.maxLength.map fun n : Nat => .int n), ("pattern", c.pattern.map .text),
    ("minItems", c.minItems.map fun n : Nat => .int n),
    ("maxItems", c.maxItems.map fun n : Nat => .int n), ("uniqueItems", c.uniqueItems.map .bool)]

/-- The fields of a schema, as they are written. -/
def SchemaBody.entries (s : Schema) : List (String × Option Value) :=
  [("type", s.type.map TypeSpec.toJson), ("format", s.format.map .text),
    ("description", s.description.map .text), ("default", s.defaultValue.map id),
    ("nullable", s.nullable.map .bool),
    ("properties", listed (mapToJson SchemaNode.toJson) s.properties),
    ("required", listed (fun l => .array (l.map .text)) s.required),
    ("additionalProperties", s.additionalProperties.map Additional.toJson),
    ("items", s.items.map SchemaNode.toJson),
    ("allOf", listed (fun l => .array (l.map SchemaNode.toJson)) s.allOf),
    ("oneOf", listed (fun l => .array (l.map SchemaNode.toJson)) s.oneOf),
    ("anyOf", listed (fun l => .array (l.map SchemaNode.toJson)) s.anyOf),
    ("discriminator", s.discriminator.map ContractDiscriminator.toJson),
    ("enum", listed (fun l => .array (l.map id)) s.enumValues)] ++ s.constraints.entries ++
  [("readOnly", s.readOnly.map .bool), ("writeOnly", s.writeOnly.map .bool)]

theorem propertiesToJson_eq (properties : List (String × SchemaNode)) :
    propertiesToJson properties = properties.map fun p => (p.1, p.2.toJson) := by
  induction properties with
  | nil => rfl
  | cons p rest ih => rw [propertiesToJson, ih, List.map_cons]

theorem branchesToJson_eq (branches : List SchemaNode) :
    branchesToJson branches = branches.map SchemaNode.toJson := by
  induction branches with
  | nil => rfl
  | cons b rest ih => rw [branchesToJson, ih, List.map_cons]

theorem additionalToJson_eq (additional : Option (Additional SchemaNode)) :
    additionalToJson additional =
      given "additionalProperties" Additional.toJson additional := by
  rcases additional with _ | _ | _ <;> rfl

theorem itemsToJson_eq (items : Option SchemaNode) :
    itemsToJson items = given "items" SchemaNode.toJson items := by
  cases items <;> rfl

/-- A list is written when it is not empty, whatever is made of its items. -/
theorem nonempty_map {α β : Type} (key : String) (encode : List β → Value) (f : α → β)
    (l : List α) :
    nonempty key encode (l.map f) = written [(key, listed (fun l => encode (l.map f)) l)] := by
  cases l <;> rfl

theorem written_count (key : String) (o : Option Nat) :
    given key (fun n => Value.int n) (o >>= fun n => pure (n : Int)) =
      written [(key, o.map fun n : Nat => .int n)] := by
  cases o <;> rfl

theorem Constraints.fields_eq (c : Constraints) : c.fields = written c.entries := by
  simp only [Constraints.fields, written_count]
  simp only [written_given, ← written_append]
  rfl

theorem SchemaBody.toJson_eq (s : Schema) : bodyToJson s = .ofFields (written s.entries) := by
  obtain ⟨⟩ := s
  rw [bodyToJson, propertiesToJson_eq, branchesToJson_eq, branchesToJson_eq, branchesToJson_eq,
    additionalToJson_eq, itemsToJson_eq, Constraints.fields_eq]
  have henum : (fun l : List Value => Value.array (l.map id)) = .array := by
    funext l
    rw [List.map_id]
  rw [SchemaBody.entries, henum]
  simp only [written_given, nonempty_map]
  simp only [written_nonempty, ← written_append, List.append_assoc, List.cons_append,
    List.nil_append]
  rfl

theorem SchemaNode.toJson_eq (s : SchemaNode) : ∃ fs, s.toJson = .ofFields fs := by
  cases s with
  | ref pointer => exact ⟨_, rfl⟩
  | inline s => exact ⟨_, SchemaBody.toJson_eq s⟩

theorem SchemaNode.toJson_ne_null (s : SchemaNode) : s.toJson ≠ .null := by
  obtain ⟨fs, hfs⟩ := s.toJson_eq
  rw [hfs]
  exact nofun

/-! ### Schemas -/

namespace Decode

theorem restores_typeSpec : Restores Eq typeSpec TypeSpec.toJson typeSpec := by
  refine fun spec _ => ⟨spec, rfl, ?_⟩
  cases spec with
  | single t =>
    have hread : schemaType (.text t.text) = some t := SchemaType.ofKeyword?_text t
    rw [TypeSpec.toJson, Value.toDatum, typeSpec, hread]
    rfl
  | several types =>
    have hread : Datum.asList schemaType (Value.texts (types.map SchemaType.text)).toDatum =
        some types := by
      rw [Value.texts, Value.toDatum, toItems_eq, Datum.asList, List.map_map, List.map_map]
      refine mapM_eq_pure ?_
      rw [List.forall₂_map_left_iff, List.forall₂_same]
      exact fun t _ => SchemaType.ofKeyword?_text t
    rw [TypeSpec.toJson, typeSpec, hread]
    rfl

theorem restores_discriminator : Restores ContractDiscriminator.Reordered discriminator
    ContractDiscriminator.toJson discriminator := by
  refine restores_record ["propertyName", "mapping"]
    (fun d => [("propertyName", some (.text d.propertyName)),
      ("mapping", listed (mapToJson Value.text) d.mapping)]) (fun _ => rfl) (by decide) (by decide)
    (fun d => ?_) fun slots slots' d hslots hread hholds => ?_
  · rw [ContractDiscriminator.toJson, written_nonempty]
    rfl
  · obtain ⟨propertyName, hname, hread⟩ := Option.bind_eq_some_iff.mp hread
    obtain ⟨mapping, hmapping, hread⟩ := Option.bind_eq_some_iff.mp hread
    cases hread
    obtain ⟨_, rfl, hname'⟩ := restores_text.required hslots hname hholds (by simp)
    obtain ⟨mapping', hsame, hmapping'⟩ :=
      restores_text.map.listed hslots hmapping .nil hholds (by simp)
    refine ⟨_, .mk hsame, ?_⟩
    rw [hname', Option.bind_eq_bind, Option.bind_some, hmapping']
    rfl

/-! #### Pointers -/

theorem pointer_ofFields (fs : List (String × Value)) : pointer (Value.ofFields fs).toDatum =
    (Value.ofFields fs).toDatum.record ["$ref"] >>=
      fun slots => slots.required "$ref" Datum.asText := rfl

theorem pointer_ref (p : String) :
    pointer (Value.ofFields [("$ref", .text p)]).toDatum = some p := by
  have hkeys : [("$ref", some (Value.text p))].map Prod.fst = ["$ref"] := rfl
  obtain ⟨slots, hslots, hholds⟩ := Slots.exists_named Value.toDatum hkeys (List.nodup_singleton _)
    fun _ => id
  have hrecord : (Value.ofFields [("$ref", .text p)]).toDatum.record ["$ref"] = some slots :=
    (record_object _ _).trans hslots
  rw [pointer_ofFields, hrecord]
  exact hholds.required List.mem_cons_self Datum.asText

/-- What has no field `$ref` is no pointer. -/
theorem pointer_eq_none {fs : List (String × Value)} (h : "$ref" ∉ fs.map Prod.fst) :
    pointer (Value.ofFields fs).toDatum = none := by
  have hunknown : ((sortFields fs).map fun f => (some f.1, f.2.toDatum)).filterMap (fun e =>
      e.1.bind fun k => if ["$ref"].contains k then some (k, e.2) else none) = [] := by
    rw [List.filterMap_map, List.filterMap_eq_nil_iff]
    intro f hf
    have hne : f.1 ≠ "$ref" := fun heq =>
      h (heq ▸ List.mem_map_of_mem (mem_of_mem_sortFields hf))
    simp [hne]
  have hslots : (Value.ofFields fs).toDatum.record ["$ref"] = some ⟨true, []⟩ := by
    rw [Value.ofFields, record_object, Slots.named]
    dsimp only
    rw [hunknown]
    rfl
  rw [pointer_ofFields, hslots]
  rfl

theorem pointer_written {entries : List (String × Option Value)}
    (h : "$ref" ∉ entries.map Prod.fst) :
    pointer (Value.ofFields (written entries)).toDatum = none :=
  pointer_eq_none fun hmem => h ((keys_written entries).subset hmem)

/-! #### The fields of a schema -/

section Fields

variable {entries : List (String × Option Value)} {slots slots' : Slots Datum} {field : String}

theorem text_again {o : Option String} (hslots : slots.Each Datum.Finite)
    (hread : slots.optional field (Datum.asOptional Datum.asText) = some o)
    (hholds : slots'.Holds Value.toDatum entries) (he : (field, o.map .text) ∈ entries) :
    slots'.optional field (Datum.asOptional Datum.asText) = some o :=
  restores_text.optional_eq hslots hread (fun _ _ _ _ _ => nofun) hholds he

theorem flag_again {o : Option Bool} (hslots : slots.Each Datum.Finite)
    (hread : slots.optional field (Datum.asOptional Datum.asFlag) = some o)
    (hholds : slots'.Holds Value.toDatum entries) (he : (field, o.map .bool) ∈ entries) :
    slots'.optional field (Datum.asOptional Datum.asFlag) = some o :=
  restores_flag.optional_eq hslots hread (fun _ _ _ _ _ => nofun) hholds he

theorem count_again {o : Option Nat} (hslots : slots.Each Datum.Finite)
    (hread : slots.optional field (Datum.asOptional Datum.asCount) = some o)
    (hholds : slots'.Holds Value.toDatum entries)
    (he : (field, o.map fun n => .int n) ∈ entries) :
    slots'.optional field (Datum.asOptional Datum.asCount) = some o :=
  restores_count.optional_eq hslots hread (fun _ _ _ _ _ => nofun) hholds he

theorem float_again {o : Option Float} (hslots : slots.Each Datum.Finite)
    (hread : slots.optional field (Datum.asOptional Datum.asFloat) = some o)
    (hholds : slots'.Holds Value.toDatum entries) (he : (field, o.map .float) ∈ entries) :
    slots'.optional field (Datum.asOptional Datum.asFloat) = some o := by
  refine restores_float.optional_eq hslots hread (fun d x _ hd hx => ?_) hholds he
  rw [Value.float, if_pos (isFinite_of_finds ⟨d, hd, hx⟩)]
  intro hnull
  cases hnull

theorem constraints_again {c : Constraints} (hslots : slots.Each Datum.Finite)
    (hread : constraints slots = some c) (hholds : slots'.Holds Value.toDatum entries)
    (hentries : ∀ e ∈ c.entries, e ∈ entries) : constraints slots' = some c := by
  simp only [constraints, Option.bind_eq_bind, Option.pure_def, Option.bind_eq_some_iff] at hread
  obtain ⟨minimum, hminimum, maximum, hmaximum, above, habove, below, hbelow, shortest, hshortest,
    longest, hlongest, pattern, hpattern, fewest, hfewest, most, hmost, unique, hunique,
    hc⟩ := hread
  cases hc
  simp only [Constraints.entries, List.forall_mem_cons] at hentries
  obtain ⟨eminimum, emaximum, eabove, ebelow, eshortest, elongest, epattern, efewest, emost,
    eunique, -⟩ := hentries
  simp only [constraints, float_again hslots hminimum hholds eminimum,
    float_again hslots hmaximum hholds emaximum, float_again hslots habove hholds eabove,
    float_again hslots hbelow hholds ebelow, count_again hslots hshortest hholds eshortest,
    count_again hslots hlongest hholds elongest, text_again hslots hpattern hholds epattern,
    count_again hslots hfewest hholds efewest, count_again hslots hmost hholds emost,
    flag_again hslots hunique hholds eunique, Option.bind_eq_bind, Option.bind_some,
    Option.pure_def]

end Fields

/-! #### Schemas -/

theorem restores_additional {read read' : Datum → Option SchemaNode}
    (h : Restores SchemaNode.Reordered read SchemaNode.toJson read') :
    Restores (Additional.Rel SchemaNode.Reordered) (additional read) Additional.toJson
      (additional read') := by
  rintro a ⟨d, hd, hread⟩
  rcases Option.or_eq_some_iff.mp hread with hflag | ⟨-, hnode⟩
  · obtain ⟨b, -, rfl⟩ := Option.map_eq_some_iff.mp hflag
    exact ⟨.flag b, .flag b, rfl⟩
  · obtain ⟨s, hs, rfl⟩ := Option.map_eq_some_iff.mp hnode
    obtain ⟨s', hreordered, hs'⟩ := h s ⟨d, hd, hs⟩
    refine ⟨.schema s', .schema hreordered, ?_⟩
    obtain ⟨fs, hfs⟩ := SchemaNode.toJson_eq s
    rw [Additional.toJson, additional, hs', hfs]
    rfl

theorem bind_eq_some {α β : Type} {o : Option α} {f : α → Option β} {a : α} {b : β}
    (h : o = some a) (hf : f a = some b) : (o >>= f) = some b := by
  rw [h, Option.bind_eq_bind, Option.bind_some, hf]

/-- A schema is restored if the positions in it are. -/
theorem restores_schema {read : Datum → Option SchemaNode}
    (h : Restores SchemaNode.Reordered read SchemaNode.toJson schemaNode) :
    Restores (fun s s' => SchemaNode.Reordered (.inline s) (.inline s'))
      (fun d => d.record schemaFields >>= schemaOfSlots read) bodyToJson
      fun d => d.record schemaFields >>= schemaOfSlots schemaNode := by
  refine restores_record schemaFields SchemaBody.entries (fun s => rfl) (by decide) (fun _ => id)
    SchemaBody.toJson_eq fun slots slots' s hslots hread hholds => ?_
  obtain ⟨type, htype, hread⟩ := Option.bind_eq_some_iff.mp hread
  obtain ⟨format, hformat, hread⟩ := Option.bind_eq_some_iff.mp hread
  obtain ⟨description, hdescription, hread⟩ := Option.bind_eq_some_iff.mp hread
  obtain ⟨value, hvalue, hread⟩ := Option.bind_eq_some_iff.mp hread
  obtain ⟨nullable, hnullable, hread⟩ := Option.bind_eq_some_iff.mp hread
  obtain ⟨properties, hproperties, hread⟩ := Option.bind_eq_some_iff.mp hread
  obtain ⟨required, hrequired, hread⟩ := Option.bind_eq_some_iff.mp hread
  obtain ⟨additionalProperties, hadditional, hread⟩ := Option.bind_eq_some_iff.mp hread
  obtain ⟨items, hitems, hread⟩ := Option.bind_eq_some_iff.mp hread
  obtain ⟨allOf, hallOf, hread⟩ := Option.bind_eq_some_iff.mp hread
  obtain ⟨oneOf, honeOf, hread⟩ := Option.bind_eq_some_iff.mp hread
  obtain ⟨anyOf, hanyOf, hread⟩ := Option.bind_eq_some_iff.mp hread
  obtain ⟨discriminator, hdiscriminator, hread⟩ := Option.bind_eq_some_iff.mp hread
  obtain ⟨enumValues, henum, hread⟩ := Option.bind_eq_some_iff.mp hread
  obtain ⟨constraints, hconstraints, hread⟩ := Option.bind_eq_some_iff.mp hread
  obtain ⟨readOnly, hreadOnly, hread⟩ := Option.bind_eq_some_iff.mp hread
  obtain ⟨writeOnly, hwriteOnly, hread⟩ := Option.bind_eq_some_iff.mp hread
  cases hread
  -- Nothing that has been given is written as null, so it is not taken for missing.
  have hadditionalJson (a : Additional SchemaNode) : a.toJson ≠ .null := by
    cases a with
    | flag => exact nofun
    | schema s => exact s.toJson_ne_null
  have htypeJson (t : TypeSpec) : t.toJson ≠ .null := by
    cases t <;> exact nofun
  have htype := restores_typeSpec.optional_eq hslots htype (fun _ t _ _ _ => htypeJson t) hholds
    (by simp [SchemaBody.entries])
  have hformat := text_again hslots hformat hholds (by simp [SchemaBody.entries])
  have hdescription := text_again hslots hdescription hholds (by simp [SchemaBody.entries])
  have hvalue := restores_value.optional_eq hslots hvalue
    (fun _ _ hnull hd hv => toValue_ne_null hd hnull hv) hholds (by simp [SchemaBody.entries])
  have hnullable := flag_again hslots hnullable hholds (by simp [SchemaBody.entries])
  obtain ⟨properties', hproperties, hproperties'⟩ :=
    h.map.listed hslots hproperties .nil hholds (by simp [SchemaBody.entries])
  obtain ⟨_, rfl, hrequired'⟩ :=
    restores_text.list_eq.listed hslots hrequired rfl hholds (by simp [SchemaBody.entries])
  obtain ⟨additionalProperties', hadditional, hadditional'⟩ :=
    (restores_additional h).optional hslots hadditional (fun _ a _ _ _ => hadditionalJson a) hholds
      (by simp [SchemaBody.entries])
  obtain ⟨items', hitems, hitems'⟩ :=
    h.optional hslots hitems (fun _ s _ _ _ => s.toJson_ne_null) hholds
      (by simp [SchemaBody.entries])
  obtain ⟨allOf', hallOf, hallOf'⟩ :=
    h.list.listed hslots hallOf .nil hholds (by simp [SchemaBody.entries])
  obtain ⟨oneOf', honeOf, honeOf'⟩ :=
    h.list.listed hslots honeOf .nil hholds (by simp [SchemaBody.entries])
  obtain ⟨anyOf', hanyOf, hanyOf'⟩ :=
    h.list.listed hslots hanyOf .nil hholds (by simp [SchemaBody.entries])
  obtain ⟨discriminator', hdiscriminator, hdiscriminator'⟩ :=
    restores_discriminator.optional hslots hdiscriminator (fun _ _ _ _ _ => nofun) hholds
      (by simp [SchemaBody.entries])
  obtain ⟨_, rfl, henum'⟩ :=
    restores_value.list_eq.listed hslots henum rfl hholds (by simp [SchemaBody.entries])
  have hconstraints := constraints_again hslots hconstraints hholds fun e he => by
    simp [SchemaBody.entries, he]
  have hreadOnly := flag_again hslots hreadOnly hholds (by simp [SchemaBody.entries])
  have hwriteOnly := flag_again hslots hwriteOnly hholds (by simp [SchemaBody.entries])
  obtain ⟨moved, hmoved, hproperties⟩ := hproperties
  exact ⟨_, .inline hmoved hproperties hadditional hitems hallOf honeOf hanyOf hdiscriminator,
    bind_eq_some htype <| bind_eq_some hformat <| bind_eq_some hdescription <|
    bind_eq_some hvalue <| bind_eq_some hnullable <| bind_eq_some hproperties' <|
    bind_eq_some hrequired' <| bind_eq_some hadditional' <| bind_eq_some hitems' <|
    bind_eq_some hallOf' <| bind_eq_some honeOf' <| bind_eq_some hanyOf' <|
    bind_eq_some hdiscriminator' <| bind_eq_some henum' <| bind_eq_some hconstraints <|
    bind_eq_some hreadOnly <| bind_eq_some hwriteOnly rfl⟩

/-- The bound with which a position has been read the first time does not matter. -/
theorem restores_schemaNodeWithin (n : Nat) :
    Restores SchemaNode.Reordered (schemaNodeWithin n) SchemaNode.toJson schemaNode := by
  induction n with
  | zero =>
    rintro s ⟨d, -, hread⟩
    cases hread
  | succ n ih =>
    rintro s ⟨d, hd, hread⟩
    rw [schemaNodeWithin] at hread
    rcases Option.or_eq_some_iff.mp hread with hpointer | ⟨-, hinline⟩
    · obtain ⟨p, -, rfl⟩ := Option.map_eq_some_iff.mp hpointer
      refine ⟨.ref p, .ref p, ?_⟩
      rw [schemaNode_eq, SchemaNode.toJson, pointer_ref]
      rfl
    · obtain ⟨slots, hslots, hinline⟩ := Option.bind_eq_some_iff.mp hinline
      obtain ⟨s, hs, hinline⟩ := Option.bind_eq_some_iff.mp hinline
      cases hinline
      obtain ⟨s', hreordered, hs'⟩ := restores_schema ih s ⟨d, hd, bind_eq_some hslots hs⟩
      obtain ⟨slots', hslots', hs'⟩ := Option.bind_eq_some_iff.mp hs'
      refine ⟨.inline s', hreordered, ?_⟩
      have hnoref : "$ref" ∉ (SchemaBody.entries s).map Prod.fst := by
        have hkeys : (SchemaBody.entries s).map Prod.fst = schemaFields := rfl
        rw [hkeys]
        decide
      rw [SchemaBody.toJson_eq] at hslots'
      rw [schemaNode_eq, SchemaNode.toJson, SchemaBody.toJson_eq, pointer_written hnoref]
      exact bind_eq_some hslots' (bind_eq_some hs' rfl)

/-- A position is restored from what is written of it. -/
theorem restores_schemaNode :
    Restores SchemaNode.Reordered schemaNode SchemaNode.toJson schemaNode := by
  rintro s ⟨d, hd, hread⟩
  exact restores_schemaNodeWithin _ s ⟨d, hd, hread⟩

end Decode

end ApiModel
