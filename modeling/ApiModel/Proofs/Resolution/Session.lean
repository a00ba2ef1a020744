import ApiModel.Proofs.Resolution.Collecting
import ApiModel.Proofs.Resolution.Soundness

/-!
# A resolver at work

One resolver may be called any number of times, and a call may fail after it has promoted
models. What has been promoted then stays, and the next call goes on from there. All through such
a session, whatever an answer or a promoted model refers to is a named schema or a promoted model,
and a promoted model refers to those before it only.

The references are those of types and of parents. The targets of a discriminator are texts of the
contract that no call resolves.

## Main definitions

* `Call`, `Answer`, `Resolver.session`: calls one after the other, and what comes of them.
* `Resolver.Known`: what a reference may name.
* `Resolver.InOrder`: what holds of the promoted models.
* `Resolver.referenceLaw`: every reference names something known.

## Main results

* `Resolver.inOrder_of_promoted`: promoted models that obey the law are in order.
* `Resolver.session_invariant`: what holds all through a session.
-/

namespace ApiModel

/-! ### Sessions -/

/-- A call to a resolver. -/
inductive Call where
  | resolve (usage : Usage) (node : SchemaNode)
  | resolveInline (usage : Usage) (s : Schema)
  | component (name : String) (node : SchemaNode)
  | operation (endpoint : Endpoint)

/-- What a resolver answers when a call succeeds. -/
inductive Answer where
  | type (t : ResolvedType)
  | model (m : Model)
  | operation (op : ApiOperation)

/-- The models that an answer refers to, at any depth. -/
def Answer.references : Answer → List String
  | type t => t.references
  | model m => m.references
  | operation op => op.references

namespace Resolver

variable (r : Resolver)

/-- A call to the resolver. -/
def answer : Call → Resolving Answer
  | .resolve usage node => return .type (← r.resolve usage node)
  | .resolveInline usage s => return .type (← r.resolve usage (.inline s))
  | .component name node => return .model (← r.component name node)
  | .operation endpoint => return .operation (← r.operation endpoint)

/-- Calls one after the other: what comes of each of them, and the state that they leave. -/
def serve (st : Promotions) : List Call → List (Except ResolveError Answer) × Promotions
  | [] => ([], st)
  | call :: rest =>
    let (answer, st) := (r.answer call).outcome st
    let (answers, st) := serve st rest
    (answer :: answers, st)

/-- Calls to a new resolver. -/
def session (calls : List Call) : List (Except ResolveError Answer) × Promotions :=
  r.serve (Promotions.initial r.components) calls

theorem serve_append (st : Promotions) (calls more : List Call) :
    (r.serve st (calls ++ more)).2 = (r.serve (r.serve st calls).2 more).2 := by
  induction calls generalizing st with
  | nil => rfl
  | cons call rest ih =>
    simp only [List.cons_append, serve]
    exact ih _

/-! ### The law of references -/

/-- What a reference may name: the model of a named schema, or a promoted model. -/
def Known (ms : List Model) (name : String) : Prop :=
  r.components.IsModelName name ∨ ∃ m ∈ ms, m.name.text = name

/-- What holds of the promoted models: their names are distinct and not those of named schemas,
and whatever they refer to is known, and comes earlier when it is promoted. -/
structure InOrder (ms : List Model) : Prop where
  nodup : (ms.map fun m => m.name.text).Nodup
  other : ∀ m ∈ ms, m.name.text ∉ r.components.modelNames
  known : ∀ m ∈ ms, ∀ name ∈ m.references, r.Known ms name
  earlier : ∀ (i j : Nat) (m m' : Model), ms[i]? = some m → ms[j]? = some m' →
    m'.name.text ∈ m.references → j < i

variable {r}

theorem Known.mono {ms ms' : List Model} {name : String} (hms : ms <+: ms')
    (h : r.Known ms name) : r.Known ms' name :=
  h.imp_right fun ⟨m, hm, hname⟩ => ⟨m, hms.subset hm, hname⟩

/-- A model refers to what its shapes refer to, and to a parent among the named schemas. -/
theorem IsModel.known_references {ms : List Model} {name : Name} {m : Model}
    (h : r.IsModel (fun t => ∀ n ∈ t.references, r.Known ms n) name m) :
    ∀ n ∈ m.references, r.Known ms n := by
  intro n hn
  rcases List.mem_append.mp hn with hn | hn
  · obtain ⟨t, ht, hn⟩ := List.mem_flatMap.mp hn
    exact h.forall_collect t ht n hn
  · cases h with
    | object hparent => exact .inl (hparent n (by simpa using hn))
    | enum | union | synonym => simp at hn

variable (r)

/-- Every reference names something known. -/
def referenceLaw : r.Law :=
  .collecting silent_modelName r.Known (fun ms m => ∀ n ∈ m.references, r.Known ms n)
    Known.mono
    (fun h _ hn => .inl (List.mem_singleton.mp hn ▸ h))
    (fun hm _ hn => .inr ⟨_, hm, (List.mem_singleton.mp hn).symm⟩)
    (fun _ _ hn => nomatch hn)
    IsModel.known_references

variable {r}

namespace Law.Promoted

variable {L : r.Law} {ms : List Model}

theorem nodup (h : L.Promoted ms) : (ms.map fun m => m.name.text).Nodup := by
  induction h with
  | nil => simp
  | push _ _ _ fresh _ ih =>
    rw [List.map_append, List.map_singleton, ← List.concat_eq_append]
    exact ih.concat fresh

/-- What is said of a model when it is promoted is said of every promoted model. -/
theorem forall_mem {Q : Model → Prop}
    (hpush : ∀ m, m.name = Name.ofText m.name.text →
      m.name.text ∉ r.components.modelNames → Q m)
    (h : L.Promoted ms) : ∀ m ∈ ms, Q m := by
  induction h with
  | nil => simp
  | push _ _ named _ other ih =>
    intro m hm
    rcases List.mem_append.mp hm with hm | hm
    · exact ih m hm
    · obtain rfl := List.mem_singleton.mp hm
      exact hpush m named other

theorem name_eq_ofText (h : L.Promoted ms) : ∀ m ∈ ms, m.name = Name.ofText m.name.text :=
  h.forall_mem fun _ named _ => named

theorem notMem_modelNames (h : L.Promoted ms) :
    ∀ m ∈ ms, m.name.text ∉ r.components.modelNames :=
  h.forall_mem fun _ _ other => other

/-- Of every promoted model the law holds among the models before it. -/
theorem model_take (h : L.Promoted ms) {i : Nat} {m : Model} (hi : ms[i]? = some m) :
    L.model (ms.take i) m := by
  induction h with
  | nil => simp at hi
  | @push ms m' _ law _ _ _ ih =>
    rcases Nat.lt_or_ge i ms.length with hlt | hge
    · rw [List.getElem?_append_left hlt] at hi
      rw [List.take_append_of_le_length (Nat.le_of_lt hlt)]
      exact ih hi
    · obtain ⟨hi', rfl⟩ : i = ms.length ∧ m' = m := by
        have hlt := (List.getElem?_eq_some_iff.mp hi).1
        simp only [List.length_append, List.length_singleton] at hlt
        obtain rfl : i = ms.length := by omega
        simpa using hi
      rw [hi', List.take_left]
      exact law

theorem exists_model (h : L.Promoted ms) {m : Model} (hm : m ∈ ms) :
    ∃ before, before <+: ms ∧ L.model before m := by
  obtain ⟨i, hi⟩ := List.getElem?_of_mem hm
  exact ⟨ms.take i, List.take_prefix i ms, h.model_take hi⟩

end Law.Promoted

theorem mem_modelNames_of_isModelName {c : Components} {name : String}
    (h : c.IsModelName name) : name ∈ c.modelNames := by
  obtain ⟨n, node, hlookup, -, rfl⟩ := h
  exact List.mem_map.mpr ⟨n, List.mem_map.mpr ⟨(n, node), mem_of_lookup_eq_some hlookup, rfl⟩, rfl⟩

/-- Promoted models that obey the law are in order. -/
theorem inOrder_of_promoted {ms : List Model} (h : r.referenceLaw.Promoted ms) :
    r.InOrder ms where
  nodup := h.nodup
  other := h.notMem_modelNames
  known m hm n hn := by
    obtain ⟨before, hbefore, hmodel⟩ := h.exists_model hm
    exact (hmodel n hn).mono hbefore
  earlier i j m m' hi hj hmem := by
    -- the name stands before `i`, and stands nowhere but at `j`
    rcases h.model_take hi _ hmem with hmodel | ⟨m'', hm'', hname⟩
    · exact absurd (mem_modelNames_of_isModelName hmodel)
        (h.notMem_modelNames m' (List.mem_of_getElem? hj))
    · obtain ⟨k, hk, rfl⟩ := List.mem_take_iff_getElem.mp hm''
      obtain ⟨hj', rfl⟩ := List.getElem?_eq_some_iff.mp hj
      have hk' : k < (ms.map fun m => m.name.text).length := by rw [List.length_map]; omega
      have hj'' : j < (ms.map fun m => m.name.text).length := by rwa [List.length_map]
      obtain rfl : k = j := h.nodup.getElem_inj_iff.mp
        (show (ms.map fun m => m.name.text)[k] = (ms.map fun m => m.name.text)[j] by
          simpa using hname)
      omega

/-! ### All through a session -/

open Law

variable {st : Promotions}

theorem keeps_answer (hst : r.referenceLaw.Sound st) (call : Call) :
    r.referenceLaw.Keeps st (r.answer call) fun ms a => ∀ n ∈ a.references, r.Known ms n := by
  cases call with
  | resolve usage node | resolveInline usage s =>
    exact (keeps_resolve hst _ _).bind fun t st₁ h₁ _ ht => .pure h₁ ht.forall_collect
  | component name node =>
    exact (keeps_component hst name node).bind fun m st₁ h₁ _ hm => .pure h₁ hm.known_references
  | operation endpoint =>
    refine (keeps_operation hst endpoint).bind fun op st₁ h₁ _ hop => .pure h₁ fun n hn => ?_
    obtain ⟨t, ht, hn⟩ := List.mem_flatMap.mp hn
    exact hop.forall_collect hollow_modelName t ht n hn

/-- Calls leave a sound state that has grown, and what they answer refers to what is known
there. -/
theorem sound_serve (hst : r.referenceLaw.Sound st) (calls : List Call) :
    r.referenceLaw.Sound (r.serve st calls).2 ∧ st.Extends (r.serve st calls).2 ∧
      ∀ a, .ok a ∈ (r.serve st calls).1 →
        ∀ n ∈ a.references, r.Known (r.serve st calls).2.models n := by
  induction calls generalizing st with
  | nil => exact ⟨hst, .refl st, fun _ h => by cases h⟩
  | cons call rest ih =>
    obtain ⟨hsound, hextends, hanswer⟩ := keeps_answer hst call
    obtain ⟨hsound', hextends', hanswers⟩ := ih hsound
    refine ⟨hsound', hextends.trans hextends', fun a ha n hn => ?_⟩
    rcases List.mem_cons.mp ha with ha | ha
    · exact (hanswer a ha.symm n hn).mono hextends'.models_prefix
    · exact hanswers a ha n hn

/-- All through a session the list of promoted models only grows at its end, its models are in
order, and what the calls answered that succeeded refers to what is known. -/
theorem session_invariant (r : Resolver) (calls more : List Call) :
    (r.session calls).2.models <+: (r.session (calls ++ more)).2.models ∧
      r.InOrder (r.session calls).2.models ∧
      ∀ a, .ok a ∈ (r.session calls).1 →
        ∀ n ∈ a.references, r.Known (r.session calls).2.models n := by
  obtain ⟨hsound, -, hanswers⟩ := sound_serve (sound_initial r.referenceLaw) calls
  obtain ⟨-, hextends, -⟩ := sound_serve hsound more
  refine ⟨?_, inOrder_of_promoted hsound.promoted, hanswers⟩
  rw [session, session, serve_append]
  exact hextends.models_prefix

end Resolver

end ApiModel
