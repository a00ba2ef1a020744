import ApiModel.Contract.Ingest
import ApiModel.Proofs.Contract.Restoring
import ApiModel.Proofs.Json.Reader

/-!
# Contracts that are written and read again

Every part of a contract is written with its fields, and each of them is found again. So a contract
that has been read from a text is found again in what is written of it, but for the order of its
maps, since keys are written in their own order.

## Main definitions

* `Parameter.entries`, `Operation.entries`, `PathItem.entries`, `Contract.entries` and the like: the
  fields of each part, as they are written.

## Main results

* `Decode.restores_referable`: what may be a pointer is restored.
* `Read.restores_operation`, `Read.restores_pathItem`, `Read.restores_contract`: the parts of a
  contract, and the whole of it.
* `Contract.reordered_of_ofJson`: a contract is found again in what is written of it.
-/

namespace ApiModel

open Json

/-! ### What is written of a contract -/

/-- The fields of a parameter, as they are written. -/
def Parameter.entries (q : Parameter) : List (String × Option Value) :=
  [("name", some (.text q.name)), ("in", some (.text q.location.text)),
    ("required", some (.bool q.required)), ("description", q.description.map .text),
    ("schema", q.schema.map SchemaNode.toJson)]

/-- The fields of the body of a request, as they are written. -/
def RequestBody.entries (body : RequestBody) : List (String × Option Value) :=
  [("description", body.description.map .text),
    ("content", some (mapToJson MediaType.toJson body.content)),
    ("required", some (.bool body.required))]

/-- The fields of a response, as they are written. -/
def Response.entries (response : Response) : List (String × Option Value) :=
  [("description", some (.text response.description)),
    ("content", listed (mapToJson MediaType.toJson) response.content)]

/-- The fields of an operation, as they are written. -/
def Operation.entries (op : Operation) : List (String × Option Value) :=
  [("operationId", op.operationId.map .text), ("summary", op.summary.map .text),
    ("tags", listed (fun l => .array (l.map .text)) op.tags),
    ("parameters",
      listed (fun l => .array (l.map (Referable.toJson Parameter.toJson))) op.parameters),
    ("requestBody", op.requestBody.map (Referable.toJson RequestBody.toJson)),
    ("responses", listed (mapToJson (Referable.toJson Response.toJson)) op.responses),
    ("deprecated", some (.bool op.deprecated))]

/-- The fields of a path, as they are written. -/
def PathItem.entries (item : PathItem) : List (String × Option Value) :=
  ("parameters",
    listed (fun l => .array (l.map (Referable.toJson Parameter.toJson))) item.parameters) ::
  Method.all.map fun m => (m.key, (item.operation? m).map Operation.toJson)

/-- The fields of the reusable parts, as they are written. -/
def Components.entries (c : Components) : List (String × Option Value) :=
  [("schemas", listed (mapToJson SchemaNode.toJson) c.schemas),
    ("parameters", listed (mapToJson (Referable.toJson Parameter.toJson)) c.parameters),
    ("requestBodies", listed (mapToJson (Referable.toJson RequestBody.toJson)) c.requestBodies),
    ("responses", listed (mapToJson (Referable.toJson Response.toJson)) c.responses)]

/-- The fields of a contract, as they are written. -/
def Contract.entries (c : Contract) : List (String × Option Value) :=
  [("openapi", some (.text c.version)), ("info", some c.info.toJson),
    ("components", some c.components.toJson),
    ("servers", listed (fun l => .array (l.map Server.toJson)) c.servers),
    ("paths", listed (mapToJson PathItem.toJson) c.paths)]

theorem Parameter.toJson_eq (q : Parameter) : q.toJson = .ofFields (written q.entries) := by
  simp only [toJson, written_single, written_cons, written_given, ← written_append]
  rfl

theorem RequestBody.toJson_eq (body : RequestBody) :
    body.toJson = .ofFields (written body.entries) := by
  simp only [toJson, written_single, written_cons, written_given, ← written_append]
  rfl

theorem Response.toJson_eq (response : Response) :
    response.toJson = .ofFields (written response.entries) := by
  simp only [toJson, written_single, written_nonempty, ← written_append]
  rfl

theorem Operation.toJson_eq (op : Operation) : op.toJson = .ofFields (written op.entries) := by
  simp only [toJson, written_single, written_given, written_nonempty, ← written_append]
  rfl

theorem PathItem.toJson_eq (item : PathItem) :
    item.toJson = .ofFields (written item.entries) := by
  have hoperations : (item.operations.map fun e => (e.1.key, e.2.toJson)) =
      written (Method.all.map fun m => (m.key, (item.operation? m).map Operation.toJson)) := by
    rw [operations, List.map_filterMap, written, List.filterMap_map]
    refine List.filterMap_congr fun m _ => ?_
    rw [Function.comp_apply, Option.map_map, Option.map_map]
    rfl
  change Value.ofFields (_ ++ item.operations.map fun e => (e.1.key, e.2.toJson)) = _
  rw [hoperations, written_nonempty, ← written_append]
  rfl

theorem Components.toJson_eq (c : Components) : c.toJson = .ofFields (written c.entries) := by
  simp only [toJson, written_nonempty, ← written_append]
  rfl

theorem Contract.toJson_eq (c : Contract) : c.toJson = .ofFields (written c.entries) := by
  simp only [toJson, written_single, written_cons, written_nonempty, ← written_append]
  rfl

theorem Referable.toJson_ne_null {α : Type} {encode : α → Value} (h : ∀ a, encode a ≠ .null)
    (x : Referable α) : x.toJson encode ≠ .null := by
  cases x with
  | ref pointer => exact nofun
  | inline a => exact h a

/-! ### Parts of an interface -/

namespace Decode

variable {α : Type}

/-- A pointer is restored, and so is what is written without a field `$ref`. -/
theorem restores_referable {R : α → α → Prop} {decode : Datum → Option α} {encode : α → Value}
    (h : Restores R decode encode decode) (hnoref : ∀ a, pointer (encode a).toDatum = none) :
    Restores (Referable.Rel R) (referable decode) (Referable.toJson encode) (referable decode) := by
  rintro a ⟨d, hd, hread⟩
  rcases Option.or_eq_some_iff.mp hread with hpointer | ⟨-, hinline⟩
  · obtain ⟨p, -, rfl⟩ := Option.map_eq_some_iff.mp hpointer
    refine ⟨.ref p, .ref p, ?_⟩
    rw [Referable.toJson, referable, pointer_ref]
    rfl
  · obtain ⟨a, ha, rfl⟩ := Option.map_eq_some_iff.mp hinline
    obtain ⟨a', hR, ha'⟩ := h a ⟨d, hd, ha⟩
    refine ⟨.inline a', .inline hR, ?_⟩
    rw [Referable.toJson, referable, hnoref, ha']
    rfl

theorem restores_parameter : Restores (Referable.Rel Parameter.Reordered) parameter
    (Referable.toJson Parameter.toJson) parameter := by
  refine restores_referable (restores_record ["name", "in", "required", "description", "schema"]
    Parameter.entries (fun _ => rfl) (by decide) (by decide) Parameter.toJson_eq
    fun slots slots' q hslots hread hholds => ?_) fun q => ?_
  · obtain ⟨name, hname, hread⟩ := Option.bind_eq_some_iff.mp hread
    obtain ⟨location, hlocation, hread⟩ := Option.bind_eq_some_iff.mp hread
    obtain ⟨description, hdescription, hread⟩ := Option.bind_eq_some_iff.mp hread
    obtain ⟨required, hrequired, hread⟩ := Option.bind_eq_some_iff.mp hread
    obtain ⟨schema, hschema, hread⟩ := Option.bind_eq_some_iff.mp hread
    cases hread
    obtain ⟨_, rfl, hname'⟩ :=
      restores_text.required hslots hname hholds (by simp [Parameter.entries])
    obtain ⟨_, rfl, hlocation'⟩ :=
      (restores_choice _ ParameterLocation.ofKeyword?_text).required hslots hlocation hholds
        (by simp [Parameter.entries])
    have hdescription' := text_again hslots hdescription hholds (by simp [Parameter.entries])
    obtain ⟨_, rfl, hrequired'⟩ := restores_flag.defaulted hslots hrequired ⟨false, rfl, rfl⟩ hholds
      (by simp [Parameter.entries])
    obtain ⟨schema', hschema, hschema'⟩ := restores_schemaNode.optional hslots hschema
      (fun _ s _ _ _ => s.toJson_ne_null) hholds (by simp [Parameter.entries])
    exact ⟨_, .mk hschema, bind_eq_some hname' <| bind_eq_some hlocation' <|
      bind_eq_some hdescription' <| bind_eq_some hrequired' <| bind_eq_some hschema' rfl⟩
  · rw [Parameter.toJson_eq]
    exact pointer_written (by simp [Parameter.entries])

theorem restores_mediaType :
    Restores MediaType.Reordered mediaType MediaType.toJson mediaType := by
  refine restores_record ["schema"] (fun media => [("schema", media.schema.map SchemaNode.toJson)])
    (fun _ => rfl) (by decide) (by decide) (fun media => ?_)
    fun slots slots' media hslots hread hholds => ?_
  · rw [MediaType.toJson, written_given]
  · obtain ⟨schema, hschema, hread⟩ := Option.bind_eq_some_iff.mp hread
    cases hread
    obtain ⟨schema', hschema, hschema'⟩ := restores_schemaNode.optional hslots hschema
      (fun _ s _ _ _ => s.toJson_ne_null) hholds (by simp)
    exact ⟨_, .mk hschema, bind_eq_some hschema' rfl⟩

theorem restores_requestBody : Restores (Referable.Rel RequestBody.Reordered) requestBody
    (Referable.toJson RequestBody.toJson) requestBody := by
  refine restores_referable (restores_record ["description", "content", "required"]
    RequestBody.entries (fun _ => rfl) (by decide) (by decide) RequestBody.toJson_eq
    fun slots slots' body hslots hread hholds => ?_) fun body => ?_
  · obtain ⟨description, hdescription, hread⟩ := Option.bind_eq_some_iff.mp hread
    obtain ⟨content, hcontent, hread⟩ := Option.bind_eq_some_iff.mp hread
    obtain ⟨required, hrequired, hread⟩ := Option.bind_eq_some_iff.mp hread
    cases hread
    have hdescription' := text_again hslots hdescription hholds (by simp [RequestBody.entries])
    obtain ⟨content', hcontent, hcontent'⟩ := restores_mediaType.map.defaulted hslots hcontent
      ⟨[], .nil, rfl⟩ hholds (by simp [RequestBody.entries])
    obtain ⟨_, rfl, hrequired'⟩ := restores_flag.defaulted hslots hrequired ⟨false, rfl, rfl⟩ hholds
      (by simp [RequestBody.entries])
    exact ⟨_, .mk hcontent, bind_eq_some hdescription' <| bind_eq_some hcontent' <|
      bind_eq_some hrequired' rfl⟩
  · rw [RequestBody.toJson_eq]
    exact pointer_written (by simp [RequestBody.entries])

theorem restores_response : Restores (Referable.Rel Response.Reordered) response
    (Referable.toJson Response.toJson) response := by
  refine restores_referable (restores_record ["description", "content"] Response.entries
    (fun _ => rfl) (by decide) (by decide) Response.toJson_eq
    fun slots slots' r hslots hread hholds => ?_) fun r => ?_
  · obtain ⟨description, hdescription, hread⟩ := Option.bind_eq_some_iff.mp hread
    obtain ⟨content, hcontent, hread⟩ := Option.bind_eq_some_iff.mp hread
    cases hread
    obtain ⟨_, rfl, hdescription'⟩ := restores_text.defaulted hslots hdescription ⟨"", rfl, rfl⟩
      hholds (by simp [Response.entries])
    obtain ⟨content', hcontent, hcontent'⟩ := restores_mediaType.map.listed hslots hcontent
      .nil hholds (by simp [Response.entries])
    exact ⟨_, .mk hcontent, bind_eq_some hdescription' <| bind_eq_some hcontent' rfl⟩
  · rw [Response.toJson_eq]
    exact pointer_written (by simp [Response.entries])

end Decode

/-! ### Contracts -/

namespace Read

open Reading

theorem restores_info : Restores Eq info Info.toJson := by
  refine restores_record ["title", "version", "description"]
    (fun i => [("title", some (.text i.title)), ("version", some (.text i.version)),
      ("description", i.description.map .text)]) (fun _ => rfl)
    (by decide) (by decide) (fun i => ?_) fun n slots slots' i hslots hread hholds => ?_
  · simp only [Info.toJson, written_single, written_cons, written_given, ← written_append]
    rfl
  · obtain ⟨title, htitle, hread⟩ := gives_bind hread
    obtain ⟨description, hdescription, hread⟩ := gives_bind hread
    obtain ⟨version, hversion, hread⟩ := gives_bind hread
    cases gives_pure hread
    obtain ⟨_, rfl, htitle'⟩ := restores_text.required hslots htitle hholds (by simp)
    have hdescription' := restores_text.optional_eq hslots hdescription (fun _ => nofun) hholds
      (by simp)
    obtain ⟨_, rfl, hversion'⟩ := restores_text.required hslots hversion hholds (by simp)
    refine ⟨_, rfl, fun n hn => ?_⟩
    rw [htitle' n hn, pure_bind, hdescription' n hn, pure_bind, hversion' n hn, pure_bind]

theorem restores_server : Restores Eq server Server.toJson := by
  refine restores_record ["url", "description"] (fun s => [("url", some (.text s.url)),
    ("description", s.description.map .text)]) (fun _ => rfl) (by decide) (by decide)
    (fun s => ?_) fun n slots slots' s hslots hread hholds => ?_
  · simp only [Server.toJson, written_single, written_given, ← written_append]
    rfl
  · obtain ⟨url, hurl, hread⟩ := gives_bind hread
    obtain ⟨description, hdescription, hread⟩ := gives_bind hread
    cases gives_pure hread
    obtain ⟨_, rfl, hurl'⟩ := restores_text.required hslots hurl hholds (by simp)
    have hdescription' := restores_text.optional_eq hslots hdescription (fun _ => nofun) hholds
      (by simp)
    refine ⟨_, rfl, fun n hn => ?_⟩
    rw [hurl' n hn, pure_bind, hdescription' n hn, pure_bind]

theorem restores_parameters : Restores ReorderedParameters
    (list (buffered Decode.parameter))
    (fun l => .array (l.map (Referable.toJson Parameter.toJson))) :=
  (restores_buffered Decode.restores_parameter).list

theorem restores_responses : Restores (SameEntries (Referable.Rel Response.Reordered)) responses
    (mapToJson (Referable.toJson Response.toJson)) :=
  (restores_buffered Decode.restores_response).map

theorem restores_operation : Restores Operation.Reordered operation Operation.toJson := by
  refine restores_record ["operationId", "summary", "tags", "parameters", "requestBody",
    "responses", "deprecated"] Operation.entries (fun _ => rfl) (by decide) (fun _ => id)
    Operation.toJson_eq fun n slots slots' op hslots hread hholds => ?_
  obtain ⟨operationId, hid, hread⟩ := gives_bind hread
  obtain ⟨summary, hsummary, hread⟩ := gives_bind hread
  obtain ⟨tags, htags, hread⟩ := gives_bind hread
  obtain ⟨parameters, hparameters, hread⟩ := gives_bind hread
  obtain ⟨requestBody, hbody, hread⟩ := gives_bind hread
  obtain ⟨responses, hresponses, hread⟩ := gives_bind hread
  obtain ⟨deprecated, hdeprecated, hread⟩ := gives_bind hread
  cases gives_pure hread
  have hid' := restores_text.optional_eq hslots hid (fun _ => nofun) hholds
    (by simp [Operation.entries])
  have hsummary' := restores_text.optional_eq hslots hsummary (fun _ => nofun) hholds
    (by simp [Operation.entries])
  obtain ⟨_, rfl, htags'⟩ :=
    restores_text.list_eq.listed hslots htags rfl hholds (by simp [Operation.entries])
  obtain ⟨parameters', hparameters, hparameters'⟩ :=
    restores_parameters.listed hslots hparameters .nil hholds (by simp [Operation.entries])
  obtain ⟨requestBody', hbody, hbody'⟩ :=
    (restores_buffered Decode.restores_requestBody).optional hslots hbody
      (Referable.toJson_ne_null fun _ => nofun) hholds (by simp [Operation.entries])
  obtain ⟨responses', hresponses, hresponses'⟩ :=
    restores_responses.listed hslots hresponses .nil hholds
      (by simp [Operation.entries])
  obtain ⟨_, rfl, hdeprecated'⟩ := restores_flag.defaulted hslots hdeprecated
    ⟨false, rfl, fun _ _ => rfl⟩ hholds (by simp [Operation.entries])
  refine ⟨_, .mk hparameters hbody hresponses, fun n hn => ?_⟩
  rw [hid' n hn, pure_bind, hsummary' n hn, pure_bind, htags' n hn, pure_bind, hparameters' n hn,
    pure_bind, hbody' n hn, pure_bind, hresponses' n hn, pure_bind, hdeprecated' n hn, pure_bind]

theorem restores_pathItem : Restores PathItem.Reordered pathItem PathItem.toJson := by
  refine restores_record ("parameters" :: Method.all.map Method.key) PathItem.entries
    (fun _ => rfl) (by decide) (fun _ => id) PathItem.toJson_eq
    fun n slots slots' item hslots hread hholds => ?_
  obtain ⟨parameters, hparameters, hread⟩ := gives_bind hread
  obtain ⟨get, hget, hread⟩ := gives_bind hread
  obtain ⟨put, hput, hread⟩ := gives_bind hread
  obtain ⟨post, hpost, hread⟩ := gives_bind hread
  obtain ⟨delete, hdelete, hread⟩ := gives_bind hread
  obtain ⟨options, hoptions, hread⟩ := gives_bind hread
  obtain ⟨head, hhead, hread⟩ := gives_bind hread
  obtain ⟨patch, hpatch, hread⟩ := gives_bind hread
  obtain ⟨trace, htrace, hread⟩ := gives_bind hread
  have hitem := gives_pure hread
  -- The operations are read one by one, but restored all in the same way.
  have hoperation (m : Method) :
      (slots.optional m.key (optional operation n)).Gives (item.operation? m) := by
    rw [hitem]
    cases m
    exacts [hget, hput, hpost, hdelete, hoptions, hhead, hpatch, htrace]
  have hwritten (m : Method) :
      (m.key, (item.operation? m).map Operation.toJson) ∈ item.entries :=
    List.mem_cons_of_mem _ (List.mem_map_of_mem m.mem_all)
  have hgiven : item.parameters = parameters := by rw [hitem]
  obtain ⟨parameters', hrelated, hparameters'⟩ := restores_parameters.listed hslots
    (hgiven ▸ hparameters) .nil hholds List.mem_cons_self
  choose operation? hrel hoperation' using fun m => restores_operation.optional hslots
    (hoperation m) (fun _ => nofun) hholds (hwritten m)
  refine ⟨{ parameters := parameters', operation? }, .mk hrelated hrel, fun n hn => ?_⟩
  have hagain (m : Method) := hoperation' m n hn
  rw [hparameters' n hn, pure_bind]
  dsimp only
  rw [hagain .get, pure_bind, hagain .put, pure_bind, hagain .post, pure_bind, hagain .delete,
    pure_bind, hagain .options, pure_bind, hagain .head, pure_bind, hagain .patch, pure_bind,
    hagain .trace, pure_bind]
  congr 2
  funext m
  cases m <;> rfl

theorem restores_components : Restores Components.Reordered components Components.toJson := by
  refine restores_record ["schemas", "parameters", "requestBodies", "responses"] Components.entries
    (fun _ => rfl) (by decide) (fun _ => id) Components.toJson_eq
    fun n slots slots' c hslots hread hholds => ?_
  obtain ⟨schemas, hschemas, hread⟩ := gives_bind hread
  obtain ⟨parameters, hparameters, hread⟩ := gives_bind hread
  obtain ⟨requestBodies, hbodies, hread⟩ := gives_bind hread
  obtain ⟨responses, hresponses, hread⟩ := gives_bind hread
  cases gives_pure hread
  obtain ⟨schemas', hschemas, hschemas'⟩ :=
    (restores_buffered Decode.restores_schemaNode).map.listed hslots hschemas .nil
      hholds (by simp [Components.entries])
  obtain ⟨parameters', hparameters, hparameters'⟩ :=
    (restores_buffered Decode.restores_parameter).map.listed hslots hparameters .nil
      hholds (by simp [Components.entries])
  obtain ⟨requestBodies', hbodies, hbodies'⟩ :=
    (restores_buffered Decode.restores_requestBody).map.listed hslots hbodies .nil
      hholds (by simp [Components.entries])
  obtain ⟨responses', hresponses, hresponses'⟩ :=
    restores_responses.listed hslots hresponses .nil hholds
      (by simp [Components.entries])
  refine ⟨⟨schemas', parameters', requestBodies', responses'⟩,
    .mk hschemas hparameters hbodies hresponses, fun n hn => ?_⟩
  rw [schemaNode, hschemas' n hn, pure_bind, hparameters' n hn, pure_bind, hbodies' n hn, pure_bind,
    hresponses' n hn, pure_bind]

theorem restores_contract : Restores Contract.Reordered contract Contract.toJson := by
  refine restores_record ["openapi", "info", "components", "servers", "paths"] Contract.entries
    (fun _ => rfl) (by decide) (by decide) Contract.toJson_eq
    fun n slots slots' c hslots hread hholds => ?_
  obtain ⟨version, hversion, hread⟩ := gives_bind hread
  obtain ⟨info, hinfo, hread⟩ := gives_bind hread
  obtain ⟨servers, hservers, hread⟩ := gives_bind hread
  obtain ⟨paths, hpaths, hread⟩ := gives_bind hread
  obtain ⟨components, hcomponents, hread⟩ := gives_bind hread
  cases gives_pure hread
  -- Parts that have not been given are written all the same, as an empty record.
  have hdefault : Finds Read.components {} :=
    ⟨1, .map false [], .map nofun nofun, { root := default, levels := 0 }, 0, 0, rfl⟩
  obtain ⟨_, rfl, hversion'⟩ :=
    restores_text.required hslots hversion hholds (by simp [Contract.entries])
  obtain ⟨_, rfl, hinfo'⟩ :=
    restores_info.required hslots hinfo hholds (by simp [Contract.entries])
  obtain ⟨_, rfl, hservers'⟩ :=
    restores_server.list_eq.listed hslots hservers rfl hholds (by simp [Contract.entries])
  obtain ⟨paths', hpaths, hpaths'⟩ :=
    restores_pathItem.map.listed hslots hpaths .nil hholds
      (by simp [Contract.entries])
  obtain ⟨components', hcomponents, hcomponents'⟩ :=
    restores_components.defaulted hslots hcomponents (restores_components {} hdefault) hholds
      (by simp [Contract.entries])
  refine ⟨_, .mk hpaths hcomponents, fun n hn => ?_⟩
  rw [hversion' n hn, pure_bind, hinfo' n hn, pure_bind, hservers' n hn, pure_bind, hpaths' n hn,
    pure_bind, hcomponents' n hn, pure_bind]

end Read

/-- A contract is found again in what is written of it, but for the order of its maps. -/
theorem Contract.reordered_of_ofJson {text : String} {c : Contract}
    (h : Contract.ofJson text = .ok c) :
    ∃ c', c.toJson.toDocument.read Read.contract = some c' ∧ c.Reordered c' := by
  rw [ofJson] at h
  split at h
  next c' hread =>
    obtain rfl : c' = c := by
      rw [supported] at h
      split at h <;> cases h
      rfl
    obtain ⟨document, hparse, hread⟩ := Option.bind_eq_some_iff.mp hread
    obtain ⟨c'', hreordered, hagain⟩ := Read.restores_contract c'
      ⟨_, _, plain_of_parse hparse, Reading.gives_of_read hread⟩
    exact ⟨c'', Reading.read_eq_some (hagain _ le_rfl), hreordered⟩
  next => cases h

/-- The named schemas of this contract come out in the order of their names. -/
def petShop : String :=
  "\x7b\"openapi\":\"3.0.3\",\"info\":\x7b\"title\":\"Shop\",\"version\":\"1\"\x7d," ++
  "\"components\":\x7b\"schemas\":\x7b\"Pet\":\x7b\"items\":\x7b\"$ref\":\"#/Name\"\x7d\x7d," ++
  "\"Name\":\x7b\"type\":\"string\"\x7d\x7d\x7d\x7d"

theorem reordered_petShop : ∃ c c', Contract.ofJson petShop = .ok c ∧
    c.toJson.toDocument.read Read.contract = some c' ∧ c.Reordered c' ∧
    c.components.schemas.map Prod.fst = ["Pet", "Name"] ∧
    c'.components.schemas.map Prod.fst = ["Name", "Pet"] := by
  have hrun : ((Contract.ofJson petShop).toOption.bind fun c =>
      (c.toJson.toDocument.read Read.contract).map fun c' =>
        (c.components.schemas.map Prod.fst, c'.components.schemas.map Prod.fst)) =
      some (["Pet", "Name"], ["Name", "Pet"]) := by decide +kernel
  obtain ⟨c, hc, hrun⟩ := Option.bind_eq_some_iff.mp hrun
  obtain ⟨c', hread, hnames⟩ := Option.map_eq_some_iff.mp hrun
  have hok : Contract.ofJson petShop = .ok c := by
    rcases h : Contract.ofJson petShop with e | found <;> rw [h] at hc <;> cases hc
    rfl
  obtain ⟨c'', hagain, hreordered⟩ := Contract.reordered_of_ofJson hok
  obtain rfl : c' = c'' := Option.some.inj (hread.symm.trans hagain)
  exact ⟨c, c', hok, hread, hreordered, congrArg Prod.fst hnames, congrArg Prod.snd hnames⟩

end ApiModel
