import ApiModel.Json.Reader
import ApiModel.Proofs.Contract.Nesting
import ApiModel.Proofs.Resolution.Transparency

/-!
# Defaults that are null

A default is read as content that may be null, so a schema that says that its default is null is
read as one that does not speak of a default at all. The literal of a declared null is never
written for it: an array that must be present and cannot be null gets the empty default, and
everything else gets none.

## Main definitions

* `Document.content`: a document as it stands.
* `Slots.Lacks`: a record without one of the fields of another one.

## Main results

* `Datum.lacks_of_namedRecord`: an entry left out of a map is a field left out of its record.
* `Decode.schemaNode_of_null`: a schema is read alike without a default that is null.
* `Resolver.default_of_null`: the default of such a schema, wherever it is used.
-/

namespace ApiModel

/-! ### Documents as they stand -/

/-- A document as it stands, before its form is known. -/
def Document.content (document : Document) : Option Datum := document.read (Read.buffered some)

theorem Document.read_buffered {α : Type} (document : Document) (decode : Datum → Option α) :
    document.read (Read.buffered decode) = document.content.bind decode := by
  rw [content, read, read]
  change (((document.root.buffer document.levels).run document >>= fun d =>
      (Reading.ofOption (decode d)).run document).run' document.jumps) =
    ((((document.root.buffer document.levels).run document >>= fun d =>
      (Reading.ofOption (some d)).run document).run' document.jumps).bind decode)
  rw [StateT.run'_eq, StateT.run'_eq, StateT.run_bind, StateT.run_bind]
  rcases ((document.root.buffer document.levels).run document).run document.jumps with
    _ | ⟨d, left⟩
  · rfl
  · change Prod.fst <$> (((Reading.ofOption (decode d)).run document).run left) = decode d
    rcases decode d <;> rfl

/-! ### Records without a field -/

/-- A record by name without one of the fields of another one. -/
structure Slots.Lacks {α : Type} (key : String) (value : α) (slots slots' : Slots α) : Prop where
  byName : slots.byName = true
  byName' : slots'.byName = true
  given : slots.given.lookup key = some value
  missing : slots'.given.lookup key = none
  other : ∀ field ≠ key, slots'.given.lookup field = slots.given.lookup field

namespace Slots

variable {α β : Type} {fields : List String} {key : String} {value : α}
  {before after : List (Option String × α)} {slots slots' : Slots α}

/-- An entry without a meaning makes no difference. -/
theorem named_of_notMem (h : key ∉ fields) :
    named fields (before ++ (some key, value) :: after) = named fields (before ++ after) := by
  simp [named, h]

/-- An entry left out is a field left out. -/
theorem lacks_of_named (hkey : key ∈ fields)
    (h : named fields (before ++ (some key, value) :: after) = some slots) :
    ∃ slots', named fields (before ++ after) = some slots' ∧ Lacks key value slots slots' := by
  let known (entries : List (Option String × α)) : List (String × α) :=
    entries.filterMap fun e => e.1.bind fun k => if fields.contains k then some (k, e.2) else none
  have hknown : known (before ++ (some key, value) :: after) =
      known before ++ (key, value) :: known after := by
    simp [known, hkey]
  have hwithout : known (before ++ after) = known before ++ known after :=
    List.filterMap_append
  change (if ((known _).map Prod.fst).Nodup then some ⟨true, known _⟩ else none) = some slots at h
  rw [hknown] at h
  split at h
  next hnodup =>
    cases h
    have hperm : (known before ++ (key, value) :: known after).Perm
        ((key, value) :: (known before ++ known after)) := List.perm_middle
    have hcons := ((hperm.map Prod.fst).nodup_iff.mp hnodup)
    obtain ⟨hfresh, hrest⟩ := List.nodup_cons.mp hcons
    refine ⟨⟨true, known before ++ known after⟩, ?_, rfl, rfl, ?_, ?_, fun field hne => ?_⟩
    · change (if ((known _).map Prod.fst).Nodup then some (⟨true, known _⟩ : Slots α) else none) = _
      rw [hwithout, if_pos hrest]
    · exact lookup_eq_some_of_mem hnodup (List.mem_append_right _ List.mem_cons_self)
    · exact lookup_eq_none_iff_notMem.mpr hfresh
    · have hlookup := lookup_eq_of_perm hperm hnodup field
      rw [← hlookup, List.lookup_cons, beq_eq_false_iff_ne.mpr hne]
  next => cases h

end Slots

/-! ### Maps without an entry -/

namespace Datum

variable {fields : List String} {key : String} {value : Datum} {before after : List (Datum × Datum)}
  {slots : Slots Datum}

/-- What the entries of a map are to a record. -/
def named (fields : List String) (entries : List (Datum × Datum)) :
    Option (List (Option String × Datum)) :=
  entries.mapM fun e => do return (← fieldOf fields e.1, e.2)

theorem namedRecord_append : namedRecord fields (.map (before ++ after)) = (do
    let pairs ← named fields before
    let pairs' ← named fields after
    Slots.named fields (pairs ++ pairs')) := by
  change ((before ++ after).mapM fun e => do return (← fieldOf fields e.1, e.2)) >>=
    Slots.named fields = _
  rw [List.mapM_append]
  simp only [bind_assoc, pure_bind, named]

theorem namedRecord_append_cons :
    namedRecord fields (.map (before ++ (.text key, value) :: after)) = (do
      let pairs ← named fields before
      let pairs' ← named fields after
      Slots.named fields (pairs ++ (some key, value) :: pairs')) := by
  rw [namedRecord_append]
  have hcons : named fields ((.text key, value) :: after) = (do
      let pairs' ← named fields after
      return (some key, value) :: pairs') := by
    rw [named, List.mapM_cons]
    rfl
  simp only [hcons, bind_assoc, pure_bind]

/-- An entry without a meaning makes no difference. -/
theorem namedRecord_of_notMem (h : key ∉ fields) :
    namedRecord fields (.map (before ++ (.text key, value) :: after)) =
      namedRecord fields (.map (before ++ after)) := by
  rw [namedRecord_append_cons, namedRecord_append]
  simp only [Slots.named_of_notMem h]

/-- An entry left out of a map is a field left out of its record. -/
theorem lacks_of_namedRecord (hkey : key ∈ fields)
    (h : namedRecord fields (.map (before ++ (.text key, value) :: after)) = some slots) :
    ∃ slots', namedRecord fields (.map (before ++ after)) = some slots' ∧
      slots.Lacks key value slots' := by
  rw [namedRecord_append_cons] at h
  obtain ⟨pairs, hpairs, h⟩ := Option.bind_eq_some_iff.mp h
  obtain ⟨pairs', hpairs', h⟩ := Option.bind_eq_some_iff.mp h
  obtain ⟨slots', hslots', hlacks⟩ := Slots.lacks_of_named hkey h
  refine ⟨slots', ?_, hlacks⟩
  rw [namedRecord_append, hpairs, hpairs']
  exact hslots'

end Datum

/-! ### Schemas without a default -/

namespace Decode

variable {before after : List (Datum × Datum)} {node : SchemaNode} {slots slots' : Slots Datum}
  {read : Datum → Option SchemaNode} {s : Schema}

/-- What is read of a schema does not change when a default that is null is left out. -/
theorem schemaOfSlots_of_lacks (h : slots.Lacks "default" .null slots') :
    schemaOfSlots read slots' = schemaOfSlots read slots := by
  have hoptional {α : Type} (field : String) (hne : field ≠ "default")
      (r : Datum → Option (Option α)) : slots'.optional field r = slots.optional field r := by
    rw [Slots.optional, Slots.optional, h.other field hne, h.byName, h.byName']
  have hdefaulted {α : Type} (field : String) (hne : field ≠ "default") (a : α)
      (r : Datum → Option α) : slots'.defaulted field a r = slots.defaulted field a r := by
    rw [Slots.defaulted, Slots.defaulted, h.other field hne]
  have hdefault : slots'.optional "default" (Datum.asOptional Datum.toValue) =
      slots.optional "default" (Datum.asOptional Datum.toValue) := by
    rw [Slots.optional, Slots.optional, h.given, h.missing, h.byName']
    rfl
  simp (disch := decide) only [schemaOfSlots, constraints, hoptional, hdefaulted, hdefault]

/-- The default of a schema is what is given as its default. -/
theorem optional_default_of_schemaOfSlots (h : schemaOfSlots read slots = some s) :
    slots.optional "default" (Datum.asOptional Datum.toValue) = some s.defaultValue := by
  obtain ⟨_, -, h⟩ := Option.bind_eq_some_iff.mp h
  obtain ⟨_, -, h⟩ := Option.bind_eq_some_iff.mp h
  obtain ⟨_, -, h⟩ := Option.bind_eq_some_iff.mp h
  obtain ⟨value, hvalue, h⟩ := Option.bind_eq_some_iff.mp h
  rw [hvalue]
  -- The other fields come after the default.
  iterate 13 obtain ⟨_, -, h⟩ := Option.bind_eq_some_iff.mp h
  cases h
  rfl

theorem pointer_of_default {value : Datum} :
    pointer (.map (before ++ (.text "default", value) :: after)) =
      pointer (.map (before ++ after)) := by
  rw [pointer, pointer, Datum.namedRecord_of_notMem (by decide)]

/-- A schema is read alike without a default that is null. -/
theorem schemaNode_of_null
    (h : schemaNode (.map (before ++ (.text "default", .null) :: after)) = some node) :
    schemaNode (.map (before ++ after)) = some node ∧
      ∀ s, node = .inline s → s.defaultValue = none := by
  rw [schemaNode_eq, pointer_of_default] at h
  rw [schemaNode_eq]
  rcases hpointer : pointer (.map (before ++ after)) with _ | text <;> rw [hpointer] at h
  · obtain ⟨slots, hslots, h⟩ := Option.bind_eq_some_iff.mp h
    obtain ⟨s, hs, h⟩ := Option.bind_eq_some_iff.mp h
    cases h
    obtain ⟨slots', hslots', hlacks⟩ := Datum.lacks_of_namedRecord (by decide) hslots
    constructor
    · have hrecord : Datum.record schemaFields (.map (before ++ after)) = some slots' := hslots'
      rw [hrecord, Option.bind_eq_bind, Option.bind_some, schemaOfSlots_of_lacks hlacks, hs]
      rfl
    · rintro _ ⟨⟩
      have hdefault := optional_default_of_schemaOfSlots hs
      rw [Slots.optional, hlacks.given] at hdefault
      exact (Option.some.inj hdefault).symm
  · exact ⟨h, fun s hs => by cases h.trans (congrArg some hs)⟩

end Decode

/-! ### Schemas where they are used -/

namespace Resolver

variable {s : Schema} {node : SchemaNode}

/-- A schema without a default, and all that points to it, has the empty default at most. -/
theorem default_of_none {r : Resolver} {usage : Usage} {st st' : Promotions} {t : ResolvedType}
    (hs : s.defaultValue = none) (htarget : r.components.target node = .ok s)
    (h : (r.resolve usage node).outcome st = (.ok t, st')) :
    t.defaultValue = r.profile.emptyDefault t (usage.required.getD false) := by
  rcases r.resolve_cases usage node st with
    ⟨e, st'', -, hresolve⟩ | ⟨shape, target, st'', -, htarget', hresolve⟩ <;> rw [hresolve] at h
  · cases h
  · cases h
    rw [htarget] at htarget'
    cases htarget'
    rw [defaultValue_finish, Profile.resolveDefault, hs]

/-- A document with a default that is null is read like the document without it. If it is that of a
schema, the schema has no default, and neither has it, nor all that points to it, a declared default
at any use: an array that must be present and cannot be null gets the empty default there, and
everything else none. -/
theorem default_of_null {document : Document} {before after : List (Datum × Datum)}
    (hcontent : document.content =
      some (.map (before ++ (.text "default", .null) :: after)))
    (hread : document.read Read.schemaNode = some node) :
    Decode.schemaNode (.map (before ++ after)) = some node ∧
    ∀ s, node = .inline s → s.defaultValue = none ∧
      ∀ (r : Resolver) (usage : Usage) (use : SchemaNode) (st st' : Promotions) (t : ResolvedType),
        r.components.target use = .ok s →
        (r.resolve usage use).outcome st = (.ok t, st') →
        t.defaultValue = r.profile.emptyDefault t (usage.required.getD false) ∧
          ∀ d, t.defaultValue = some d → d.origin = .emptyContainer := by
  rw [Read.schemaNode, Document.read_buffered, hcontent] at hread
  obtain ⟨hwithout, hnone⟩ := Decode.schemaNode_of_null hread
  refine ⟨hwithout, fun s hs => ⟨hnone s hs, fun r usage use st st' t htarget h => ?_⟩⟩
  have hempty := default_of_none (hnone s hs) htarget h
  exact ⟨hempty, fun d hd => Profile.origin_emptyDefault (hempty.symm.trans hd)⟩

/-- What comes of a document of a schema that is resolved. -/
theorem exists_of_document {document : Document} {r : Resolver} {usage : Usage} {α : Type}
    {f : ResolvedType → α} {a : α}
    (h : (((document.read Read.schemaNode).bind SchemaNode.schema?).bind fun s =>
      ((r.resolve usage (.inline s)).outcome {}).1.toOption.map f) = some a) :
    ∃ s t st, document.read Read.schemaNode = some (.inline s) ∧
      (r.resolve usage (.inline s)).outcome {} = (.ok t, st) ∧ f t = a := by
  obtain ⟨s, hs, hrun⟩ := Option.bind_eq_some_iff.mp h
  obtain ⟨node, hread, hnode⟩ := Option.bind_eq_some_iff.mp hs
  obtain ⟨t, st, hresolve, ha⟩ := Resolving.exists_outcome hrun
  cases node with
  | ref pointer => cases hnode
  | inline s' =>
    cases hnode
    exact ⟨s, t, st, hread, hresolve, ha⟩

/-- A number whose default is null is read as one without a default, and has none. -/
theorem default_of_null_number :
    let document : Document :=
      (Json.Value.object [("type", .text "integer"), ("default", .null)]).toDocument
    let r : Resolver := { components := {}, profile := .jaxrsSpec, flags := {} }
    let usage : Usage := { Usage.standalone "#" "Count" with required := some true }
    document.content =
      some (.map ([(.text "type", .text "integer")] ++ (.text "default", .null) :: [])) ∧
    ∃ s t st, document.read Read.schemaNode = some (.inline s) ∧
      Decode.schemaNode (.map [(.text "type", .text "integer")]) = some (.inline s) ∧
      (r.resolve usage (.inline s)).outcome {} = (.ok t, st) ∧ t.name = "int" ∧
      t.defaultValue = none := by
  intro document r usage
  have hcontent : document.content =
    some (.map ([(.text "type", .text "integer")] ++ (.text "default", .null) :: [])) := rfl
  have hrun : ∃ s t st, document.read Read.schemaNode = some (.inline s) ∧
      (r.resolve usage (.inline s)).outcome {} = (.ok t, st) ∧
      (t.name, t.container) = ("int", .scalar) := exists_of_document (by decide +kernel)
  obtain ⟨s, t, st, hread, hresolve, ht⟩ := hrun
  obtain ⟨hwithout, hschema⟩ := default_of_null hcontent hread
  obtain ⟨-, hdefault⟩ := hschema s rfl
  obtain ⟨hname, hcontainer⟩ := Prod.mk.inj ht
  refine ⟨hcontent, s, t, st, hread, hwithout, hresolve, hname, ?_⟩
  rw [(hdefault r usage (.inline s) {} st t rfl hresolve).1, Profile.emptyDefault, hcontainer]
  rfl

/-- An array whose default is null, which must be present, is empty by default. -/
theorem empty_default_of_null :
    let document : Document :=
      (Json.Value.object [("type", .text "array"), ("items", .object [("type", .text "string")]),
        ("default", .null)]).toDocument
    let r : Resolver := { components := {}, profile := .jaxrsSpec, flags := {} }
    let usage : Usage := { Usage.standalone "#" "Tag" with required := some true }
    document.content = some (.map ([(.text "type", .text "array"),
      (.text "items", .map [(.text "type", .text "string")])] ++
        (.text "default", .null) :: [])) ∧
    r.profile.literals.null = "null" ∧
    ∃ s t st, document.read Read.schemaNode = some (.inline s) ∧
      (r.resolve usage (.inline s)).outcome {} = (.ok t, st) ∧
      t.defaultValue = some ⟨"new ArrayList<>()", .emptyContainer, ["java.util.ArrayList"]⟩ :=
  ⟨rfl, rfl, exists_of_document (by decide +kernel)⟩

end Resolver

end ApiModel
