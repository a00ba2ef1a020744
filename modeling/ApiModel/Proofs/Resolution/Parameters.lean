import ApiModel.Proofs.Resolution.Chains
import ApiModel.Proofs.Resolution.Law
import ApiModel.Proofs.Resolution.ModelForm
import ApiModel.Profile.Builtin

/-!
# The parameters of an operation

A path declares parameters for all of its operations, and an operation declares its own. Both lists
may hold pointers, and may declare a parameter more than once: a parameter is known by its name and
by where it is sent. What has been declared first decides where a parameter stands among the others,
and what has been declared last decides what it is. So an operation replaces what its path declares,
in its place.

## Main definitions

* `Referable.ComesTo`: what stands at a position that may be a pointer.
* `Parameter.key`, `ApiParameter.key`: by what a parameter is known.
* `Parameter.IsLastOf`: no later declaration is of the same parameter.
* `Endpoint.location`: where an operation stands in the contract.
* `Resolver.BuiltFrom`: a parameter is built from a declaration.

## Main results

* `map_key_mergeParameters`: which parameters there are, and in which order.
* `isLastOf_of_mem_mergeParameters`: how each of them is declared.
* `Resolver.steps_of_operation`: the steps in which an operation is resolved.
* `Resolver.builtFrom_of_outcome`: what the parameters of an operation are built from.
* `Resolver.parameters_of_operation`: the parameters of an operation.
-/

namespace ApiModel

/-! ### Positions that may be pointers -/

/-- What stands at a position of a section: the content itself, or that of the component to which
the chain of pointers comes. -/
inductive Referable.ComesTo {α : Type} (kind : String) (entries : List (String × Referable α)) :
    Referable α → α → Prop
  | inline (a : α) : ComesTo kind entries (.inline a) a
  | ref {pointer : String} {a : α} (h : ComesOf kind id entries (some pointer) pointer (.ok a)) :
      ComesTo kind entries (.ref pointer) a

theorem Referable.comesTo_of_get {α : Type} {kind : String} {entries : List (String × Referable α)}
    {q : Referable α} {a : α}
    (h : q.get (fun pointer => follow kind id entries (some pointer) .empty pointer) = .ok a) :
    q.ComesTo kind entries a := by
  cases q with
  | ref pointer => exact .ref (follow_eq_iff.mp h)
  | inline b =>
    cases h
    exact .inline a

theorem Referable.get_of_comesTo {α : Type} {kind : String} {entries : List (String × Referable α)}
    {q : Referable α} {a : α} (h : q.ComesTo kind entries a) :
    q.get (fun pointer => follow kind id entries (some pointer) .empty pointer) = .ok a := by
  cases h with
  | inline => rfl
  | ref h => exact follow_eq_iff.mpr h

theorem Referable.rightUnique_comesTo {α : Type} (kind : String)
    (entries : List (String × Referable α)) :
    Relator.RightUnique (Referable.ComesTo kind entries) := fun _ _ _ ha hb =>
  Except.ok.inj ((get_of_comesTo ha).symm.trans (get_of_comesTo hb))

/-! ### Declarations of one parameter -/

/-- A parameter is known by its name and by where it is sent. -/
def Parameter.key (q : Parameter) : String × ParameterLocation := (q.name, q.location)

/-- A parameter of an operation is known by the same. -/
def ApiParameter.key (a : ApiParameter) : String × ParameterLocation := (a.name, a.location)

/-- No later declaration of a list is of the same parameter. -/
def Parameter.IsLastOf (q : Parameter) (declared : List Parameter) : Prop :=
  ∃ before after, declared = before ++ q :: after ∧ ∀ q' ∈ after, q'.key ≠ q.key

section Merge

variable {q q' : Parameter} {l declared : List Parameter}

theorem Parameter.key_eq_iff : q'.key = q.key ↔ q'.name = q.name ∧ q'.location = q.location :=
  Prod.mk.injEq _ _ _ _ ▸ Iff.rfl

/-- A parameter that is there keeps its place, and another one comes last. -/
theorem map_key_insertParameter (q : Parameter) (l : List Parameter) :
    (insertParameter q l).map Parameter.key =
      if q.key ∈ l.map Parameter.key then l.map Parameter.key
      else l.map Parameter.key ++ [q.key] := by
  induction l with
  | nil => rfl
  | cons q' l ih =>
    rw [insertParameter]
    by_cases h : q'.key = q.key
    · rw [if_pos (Parameter.key_eq_iff.mp h), if_pos (by simp [h]), List.map_cons, List.map_cons, h]
    · have hmem : q.key ∈ (q' :: l).map Parameter.key ↔ q.key ∈ l.map Parameter.key := by
        simp [Ne.symm h]
      rw [if_neg fun heq => h (Parameter.key_eq_iff.mpr heq), List.map_cons, ih]
      simp only [hmem]
      split <;> rfl

/-- What is in a list of parameters after one more has been declared: this one, and those that are
not the same parameter. -/
theorem mem_insertParameter (hnodup : (l.map Parameter.key).Nodup) (h : q' ∈ insertParameter q l) :
    q' = q ∨ q' ∈ l ∧ q'.key ≠ q.key := by
  induction l with
  | nil => exact .inl (List.mem_singleton.mp h)
  | cons head l ih =>
    obtain ⟨hhead, hrest⟩ := List.nodup_cons.mp hnodup
    rw [insertParameter] at h
    split at h
    next hkey =>
      rcases List.mem_cons.mp h with h | h
      · exact .inl h
      · refine .inr ⟨List.mem_cons_of_mem _ h, fun heq => hhead ?_⟩
        rw [Parameter.key_eq_iff.mpr hkey, ← heq]
        exact List.mem_map_of_mem h
    next hkey =>
      rcases List.mem_cons.mp h with rfl | h
      · exact .inr ⟨List.mem_cons_self, fun heq => hkey (Parameter.key_eq_iff.mp heq)⟩
      · exact (ih hrest h).imp_right fun ⟨hmem, hne⟩ => ⟨List.mem_cons_of_mem _ hmem, hne⟩

theorem mergeParameters_append_singleton (declared : List Parameter) (q : Parameter) :
    mergeParameters (declared ++ [q]) = insertParameter q (mergeParameters declared) :=
  List.foldl_append

/-- There is one parameter for each that is declared, in the order of the first declarations. -/
theorem map_key_mergeParameters (declared : List Parameter) :
    (mergeParameters declared).map Parameter.key = (declared.map Parameter.key).eraseDups := by
  induction declared using List.reverseRecOn with
  | nil => rfl
  | append_singleton declared q ih =>
    rw [mergeParameters_append_singleton, map_key_insertParameter, ih, List.map_append,
      List.map_singleton, eraseDups_append_singleton]
    simp only [List.mem_eraseDups]

/-- Each parameter is as it has been declared last. -/
theorem isLastOf_of_mem_mergeParameters (h : q ∈ mergeParameters declared) :
    q.IsLastOf declared := by
  induction declared using List.reverseRecOn with
  | nil => cases h
  | append_singleton declared last ih =>
    have hnodup : ((mergeParameters declared).map Parameter.key).Nodup := by
      rw [map_key_mergeParameters]
      exact nodup_eraseDups _
    rw [mergeParameters_append_singleton] at h
    rcases mem_insertParameter hnodup h with rfl | ⟨hmem, hne⟩
    · exact ⟨declared, [], rfl, fun _ h => nomatch h⟩
    · obtain ⟨before, after, rfl, hafter⟩ := ih hmem
      refine ⟨before, after ++ [last], by simp, List.forall_mem_append.mpr ⟨hafter, ?_⟩⟩
      exact List.forall_mem_singleton.mpr hne.symm

end Merge

/-! ### Parameters that are built from declarations -/

/-- Where an operation stands in the contract. -/
def Endpoint.location (e : Endpoint) : String := "#/paths/" ++ e.path ++ "/" ++ e.method.key

namespace Resolver

variable {r : Resolver} {owner location : String} {st st' : Promotions}

/-- A parameter is built from a declaration: it must be sent if the declaration says so or if it is
part of the path, its type is that of its schema where it is used, or that of any value if it has
none, and its constraints are those of the schema to which this one leads. -/
structure BuiltFrom (r : Resolver) (owner location : String) (q : Parameter) (a : ApiParameter) :
    Prop where
  key : a.key = q.key
  required : a.required = true ↔ q.required = true ∨ q.location = .path
  description : a.description = q.description
  typeless : q.schema = none → a.type = r.any ∧ a.constraints = .none
  typed : ∀ node ∈ q.schema, ∃ target, r.components.target node = .ok target ∧
    a.constraints = target.constraints ∧ ∃ st st',
      (r.resolve (parameterUsage owner location q a.required) node).outcome st = (.ok a.type, st')

theorem builtFrom_of_parameter {q : Parameter} {a : ApiParameter}
    (h : (r.parameter owner location q).outcome st = (.ok a, st')) :
    r.BuiltFrom owner location q a := by
  rw [parameter] at h
  dsimp only at h
  have hrequired : (q.required || decide (q.location = .path)) = true ↔
      q.required = true ∨ q.location = .path := by simp
  cases hschema : q.schema with
  | none =>
    rw [hschema] at h
    cases h
    exact ⟨rfl, hrequired, rfl, fun _ => ⟨rfl, rfl⟩, fun _ hnode => nomatch hschema.symm.trans hnode⟩
  | some node =>
    rw [hschema] at h
    obtain ⟨type, st₁, htype, h⟩ := Resolving.exists_of_outcome_bind h
    obtain ⟨target, htarget, h⟩ := Resolving.exists_of_outcome_lift_bind h
    cases h
    refine ⟨rfl, hrequired, rfl, fun hnone => absurd hnone (hschema ▸ nofun), fun _ hnode => ?_⟩
    obtain rfl := Option.some.inj (hschema.symm.trans hnode)
    exact ⟨target, htarget, rfl, st, _, htype⟩

/-- Numbering changes the identifier only. -/
theorem BuiltFrom.numbered {q : Parameter} {a : ApiParameter} (h : r.BuiltFrom owner location q a)
    (identifier : String) : r.BuiltFrom owner location q { a with identifier } :=
  ⟨h.key, h.required, h.description, h.typeless, h.typed⟩

/-- The parameters of an operation are built from what its path and the operation declare, once each
pointer is followed. -/
theorem builtFrom_of_parameters {item : PathItem} {op : Operation} {as : List ApiParameter}
    (h : (r.parameters owner location item op).outcome st = (.ok as, st')) :
    ∃ declared, List.Forall₂ (Referable.ComesTo "parameters" r.components.parameters)
        (item.parameters ++ op.parameters) declared ∧
      List.Forall₂ (r.BuiltFrom owner location) (mergeParameters declared) as := by
  obtain ⟨declared, hdeclared, h⟩ := Resolving.exists_of_outcome_lift_bind h
  obtain ⟨asked, st₁, hasked, h⟩ := Resolving.exists_of_outcome_bind h
  cases h
  refine ⟨declared, (forall₂_of_mapM_ok hdeclared).imp fun _ _ => Referable.comesTo_of_get, ?_⟩
  exact forall₂_zipWith (fun _ _ identifier hq => hq.numbered identifier)
    (forall₂_of_outcome_mapM (fun _ _ _ _ => builtFrom_of_parameter) hasked) (by simp)

/-- An operation is resolved in three steps, one after the other: what is sent along, the body of the
request if one is declared, and the response. -/
theorem steps_of_operation {e : Endpoint} {op : ApiOperation}
    (h : (r.operation e).outcome st = (.ok op, st')) :
    ∃ st₁ st₂,
      (r.parameters op.name.pascalCase e.location e.item e.operation).outcome st =
        (.ok op.parameters, st₁) ∧
      (e.operation.requestBody.elim (pure none)
        (r.requestBody op.name.pascalCase e.location)).outcome st₁ = (.ok op.requestBody, st₂) ∧
      (r.responseOf op.name.pascalCase e.location e.operation).outcome st₂ =
        (.ok op.response, st') := by
  rw [operation] at h
  dsimp only at h
  obtain ⟨parameters, st₁, hparameters, h⟩ := Resolving.exists_of_outcome_bind h
  split at h
  all_goals
    next hbody =>
      obtain ⟨body, st₂, hsent, h⟩ := Resolving.exists_of_outcome_bind h
      obtain ⟨response, st₃, hresponse, h⟩ := Resolving.exists_of_outcome_bind h
      cases h
      exact ⟨st₁, st₂, hparameters, hbody ▸ hsent, hresponse⟩

/-- The parameters of a whole operation are built likewise. -/
theorem builtFrom_of_outcome {e : Endpoint} {op : ApiOperation}
    (h : (r.operation e).outcome st = (.ok op, st')) :
    ∃ declared, List.Forall₂ (Referable.ComesTo "parameters" r.components.parameters)
        (e.item.parameters ++ e.operation.parameters) declared ∧
      List.Forall₂ (r.BuiltFrom op.name.pascalCase e.location) (mergeParameters declared)
        op.parameters := by
  obtain ⟨_, _, hparameters, -, -⟩ := steps_of_operation h
  exact builtFrom_of_parameters hparameters

/-- The parameters of an operation that is resolved, from any state: once each pointer is followed,
there is one for each name and place that the path or the operation declares, in the order in which
these are declared first, those of the path before those of the operation. Each is built from its
last declaration. It must be sent exactly if this declaration says so or it is part of the path. -/
theorem parameters_of_operation {e : Endpoint} {op : ApiOperation}
    (h : (r.operation e).outcome st = (.ok op, st')) :
    ∃ declared, List.Forall₂ (Referable.ComesTo "parameters" r.components.parameters)
        (e.item.parameters ++ e.operation.parameters) declared ∧
      op.parameters.map ApiParameter.key = (declared.map Parameter.key).eraseDups ∧
      (op.parameters.map ApiParameter.key).Nodup ∧
      ∀ a ∈ op.parameters, ∃ q, q.IsLastOf declared ∧
        r.BuiltFrom op.name.pascalCase e.location q a := by
  obtain ⟨declared, hdeclared, hbuilt⟩ := builtFrom_of_outcome h
  have hkeys : op.parameters.map ApiParameter.key = (declared.map Parameter.key).eraseDups := by
    rw [← map_key_mergeParameters]
    exact (map_eq_map_of_forall₂ hbuilt fun _ _ _ hq => hq.key.symm).symm
  refine ⟨declared, hdeclared, hkeys, hkeys ▸ nodup_eraseDups _, fun a ha => ?_⟩
  obtain ⟨q, hq, hqa⟩ := exists_of_forall₂ hbuilt ha
  exact ⟨q, isLastOf_of_mem_mergeParameters hq, hqa⟩

end Resolver

/-! ### A limit that is declared over and over -/

/-- A parameter that holds a whole number. -/
def Parameter.ofNumber (name : String) (required : Bool) : Parameter where
  name := name
  location := .query
  required := required
  schema := some (.inline { type := some (.single .integer) })

/-- A named limit in the query, and another name for it. -/
def Components.limiting : Components where
  parameters := [("Limit", .inline (.ofNumber "limit" false)),
    ("Size", .ref "#/components/parameters/Limit")]

/-- An operation that declares the limit of its path anew, and a header of the same name. -/
def Endpoint.limited : Endpoint where
  path := "/pets/\x7bid\x7d"
  item := { parameters :=
    [.ref "#/components/parameters/Size", .inline { name := "id", location := .path },
     .inline { name := "limit", location := .query, description := some "at most" }] }
  method := .get
  operation := { parameters :=
    [.inline { name := "limit", location := .header }, .inline (.ofNumber "limit" true)] }

namespace Resolver

/-- The limit in the query stays in front, and is what the operation declares. -/
theorem parameters_of_limited : ∃ op st',
    (operation ⟨.limiting, .jaxrsSpec, {}⟩ .limited).outcome {} = (.ok op, st') ∧
    op.parameters.map (fun a => (a.key, a.required, a.type.name, a.description)) =
      [(("limit", .query), true, "int", none), (("id", .path), true, "Object", none),
       (("limit", .header), false, "Object", none)] ∧
    ∃ declared, List.Forall₂ (Referable.ComesTo "parameters" Components.limiting.parameters)
        (Endpoint.limited.item.parameters ++ Endpoint.limited.operation.parameters) declared ∧
      op.parameters.map ApiParameter.key = (declared.map Parameter.key).eraseDups ∧
      (op.parameters.map ApiParameter.key).Nodup ∧
      ∀ a ∈ op.parameters, ∃ q, q.IsLastOf declared ∧
        BuiltFrom ⟨.limiting, .jaxrsSpec, {}⟩ op.name.pascalCase Endpoint.limited.location q a := by
  have hrun : ∃ op st', (operation ⟨.limiting, .jaxrsSpec, {}⟩ .limited).outcome {} = (.ok op, st') ∧
      op.parameters.map (fun a => (a.key, a.required, a.type.name, a.description)) =
        [(("limit", .query), true, "int", none), (("id", .path), true, "Object", none),
         (("limit", .header), false, "Object", none)] := Resolving.exists_outcome (by decide +kernel)
  obtain ⟨op, st', h, hparameters⟩ := hrun
  exact ⟨op, st', h, hparameters, parameters_of_operation h⟩

end Resolver

end ApiModel
