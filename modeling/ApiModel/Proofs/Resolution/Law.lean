import ApiModel.Proofs.Lists
import ApiModel.Proofs.Name.Allocator
import ApiModel.Proofs.Resolution.Outcome
import ApiModel.Resolution.Operation

/-!
# Laws of a resolver

A *law* says something about every shape that a resolver answers and about every model that it
promotes. What it says of a shape may refer to the models promoted so far, and must stay true
when more are promoted; what it says of a model may refer to the models before it. To have a law
one shows that it holds of the shapes that the resolver makes, one kind after the other, and of a
model that is built from such shapes. It then holds of everything that the resolver answers in
any sound state, and the state stays sound, whether the call succeeds or fails.

## Main definitions

* `Resolver.Used`, `Resolver.IsField`, `Resolver.IsModel`, `Resolver.IsParameter`,
  `Resolver.IsOperation`: what the answers of a resolver are made of.
* `Resolver.Law`: a law.
* `Resolver.Law.Promoted`, `Resolver.Law.Sound`: lists of models and states in which it holds.
* `Resolver.Law.Keeps`: a resolving keeps a law and answers what is said of it.

## Main results

* `Resolver.Used.mono`, `Resolver.IsField.mono`, `Resolver.IsParameter.mono`,
  `Resolver.IsBody.mono`: what is said of the shapes may be weakened.
* `Resolver.Law.Keeps.bind`, `Resolver.Law.Keeps.mapM`: what follows an answer, and answers in
  order.
-/

namespace ApiModel

/-- The names of the models of the named schemas. -/
def Components.modelNames (c : Components) : List String :=
  c.schemaNames.map fun n => (Name.ofText n).pascalCase

/-- The names of the models that stay references where a named schema is referred to. -/
def Components.IsModelName (c : Components) (name : String) : Prop :=
  ∃ n node, c.schemas.lookup n = some node ∧ node.isModel = true ∧
    name = (Name.ofText n).pascalCase

namespace Resolver

variable (r : Resolver)

/-! ### What answers are made of -/

/-- A shape of a kind as it is used at a schema position. -/
def Used (T : ResolvedType → Prop) (usage : Usage) (node : SchemaNode) (t : ResolvedType) :
    Prop :=
  ∃ target shape, r.components.target node = .ok target ∧ T shape ∧
    t = r.finish usage target shape

/-- A discriminator that some branches and a declaration give. -/
def IsDiscriminator (d : Discriminator) : Prop :=
  ∃ branches declared, Resolver.discriminator branches declared = .ok d

/-- The members and the discriminator of a union. -/
structure IsUnion (T : ResolvedType → Prop) (u : UnionType ResolvedType) : Prop where
  members : ∀ t ∈ u.members, T t
  discriminator : ∀ d ∈ u.discriminator, IsDiscriminator d

/-- A field of a property, with the identifier that it asks for. -/
structure IsField (T : ResolvedType → Prop) (owner : String) (p : Property) (f : Field) :
    Prop where
  property : f.property = p.name
  identifier :
    f.identifier = r.profile.identifier (Name.ofText p.name) r.profile.naming.fieldCase
  required : f.required = p.required
  type : ∃ location, r.Used T (propertyUsage owner location p.name p.required) p.node f.type
  nullable : ∃ target, r.components.target p.node = .ok target ∧
    f.nullable = (target.nullableMarker == some true)
  owner : f.owner = owner

/-- Fields under the identifiers that are left to them. -/
def numberFields (fields : List Field) : List Field :=
  fields.zipWith (fun f identifier => { f with identifier })
    (Allocator.uniqueNames (fields.map Field.identifier))

/-- The fields of properties. -/
def AreFields (T : ResolvedType → Prop) (owner : String) (properties : List Property)
    (fields : List Field) : Prop :=
  ∃ asked, List.Forall₂ (r.IsField T owner) properties asked ∧ fields = numberFields asked

/-- A model of a name: an enum, a union, another name for a shape in use, or an object, which
may have a parent among the named schemas. -/
inductive IsModel (T : ResolvedType → Prop) (name : Name) : Model → Prop where
  | enum {s location description e} (h : r.profile.enumType r.flags s location = .ok e) :
      IsModel T name { name, description, shape := .enum e }
  | union {description u} (h : IsUnion T u) :
      IsModel T name
        { name, description, shape := .union u, discriminator := u.discriminator }
  | synonym {description location node t}
      (h : r.Used T (.standalone location name.pascalCase) node t) :
      IsModel T name { name, description, shape := .synonym t }
  | object {description parent properties fields d}
      (hparent : ∀ n ∈ parent, r.components.IsModelName n)
      (hfields : r.AreFields T name.pascalCase properties fields)
      (hd : ∀ d' ∈ d, IsDiscriminator d') :
      IsModel T name { name, description, parent, fields, discriminator := d }

theorem IsModel.name_eq {r : Resolver} {T : ResolvedType → Prop} {name : Name} {m : Model}
    (h : r.IsModel T name m) : m.name = name := by
  cases h <;> rfl

/-- A parameter with the identifier that it asks for. -/
structure IsParameter (T : ResolvedType → Prop) (q : Parameter) (a : ApiParameter) : Prop where
  name : a.name = q.name
  identifier :
    a.identifier = r.profile.identifier (Name.ofText q.name) r.profile.naming.fieldCase
  location : a.location = q.location
  required : a.required = (q.required || q.location = .path)
  type : (q.schema = none ∧ a.type = r.any) ∨
    ∃ node owner location, q.schema = some node ∧
      r.Used T (parameterUsage owner location q a.required) node a.type

/-- Parameters under the identifiers that are left to them. -/
def numberParameters (parameters : List ApiParameter) : List ApiParameter :=
  parameters.zipWith (fun q identifier => { q with identifier })
    (Allocator.uniqueNames (parameters.map ApiParameter.identifier))

/-- The body of a request. -/
def IsBody (T : ResolvedType → Prop) (b : ApiBody) : Prop :=
  b.type = r.any ∨ ∃ usage node, usage.required = some b.required ∧ r.Used T usage node b.type

/-- What an operation returns by the contract. -/
def IsResponse (T : ResolvedType → Prop) (t : ResponseType) : Prop :=
  t = .noContent ∨ ∃ location name node type,
    r.Used T (.standalone location name) node type ∧ t = .content type

/-- An operation of an endpoint. -/
structure IsOperation (T : ResolvedType → Prop) (op : ApiOperation) : Prop where
  parameters : ∃ declared asked, List.Forall₂ (r.IsParameter T) (mergeParameters declared) asked ∧
    op.parameters = numberParameters asked
  requestBody : ∀ b ∈ op.requestBody, r.IsBody T b
  response : r.IsResponse T op.response
  shape : op.shape = r.profile.returnShape op.response r.flags

/-! ### Numbering changes identifiers only -/

theorem map_identifier_numberFields (fields : List Field) :
    (numberFields fields).map Field.identifier =
      Allocator.uniqueNames (fields.map Field.identifier) :=
  map_zipWith_of_right (fun _ _ => rfl) (by simp)

theorem map_property_numberFields (fields : List Field) :
    (numberFields fields).map Field.property = fields.map Field.property :=
  map_zipWith_of_left (by intros; rfl) (by simp)

theorem map_identifier_numberParameters (parameters : List ApiParameter) :
    (numberParameters parameters).map ApiParameter.identifier =
      Allocator.uniqueNames (parameters.map ApiParameter.identifier) :=
  map_zipWith_of_right (fun _ _ => rfl) (by simp)

theorem exists_of_mem_numberFields {fields : List Field} {f : Field}
    (h : f ∈ numberFields fields) : ∃ f' ∈ fields, f = { f' with identifier := f.identifier } := by
  obtain ⟨f', hf', identifier, -, rfl⟩ := exists_of_mem_zipWith h
  exact ⟨f', hf', rfl⟩

theorem exists_of_mem_numberParameters {parameters : List ApiParameter} {q : ApiParameter}
    (h : q ∈ numberParameters parameters) :
    ∃ q' ∈ parameters, q = { q' with identifier := q.identifier } := by
  obtain ⟨q', hq', identifier, -, rfl⟩ := exists_of_mem_zipWith h
  exact ⟨q', hq', rfl⟩

/-! ### What is said of the shapes may be weakened -/

section Mono

variable {r} {T T' : ResolvedType → Prop} (hT : ∀ t, T t → T' t)

include hT

theorem Used.mono {usage : Usage} {node : SchemaNode} {t : ResolvedType}
    (h : r.Used T usage node t) : r.Used T' usage node t := by
  obtain ⟨target, shape, htarget, hshape, ht⟩ := h
  exact ⟨target, shape, htarget, hT _ hshape, ht⟩

theorem IsField.mono {owner : String} {p : Property} {f : Field} (h : r.IsField T owner p f) :
    r.IsField T' owner p f :=
  { h with type := h.type.imp fun _ => Used.mono hT }

theorem IsParameter.mono {q : Parameter} {a : ApiParameter} (h : r.IsParameter T q a) :
    r.IsParameter T' q a :=
  { h with
    type := h.type.imp_right fun ⟨node, owner, location, hq, hused⟩ =>
      ⟨node, owner, location, hq, Used.mono hT hused⟩ }

theorem IsBody.mono {b : ApiBody} (h : r.IsBody T b) : r.IsBody T' b :=
  h.imp_right fun ⟨usage, node, hrequired, hused⟩ =>
    ⟨usage, node, hrequired, Used.mono hT hused⟩

end Mono

/-! ### Laws -/

/-- What is said about the shapes that a resolver answers and about the models that it
promotes, and why it holds of what it makes. -/
structure Law where
  /-- What is said about a shape, given the models promoted so far. -/
  type : List Model → ResolvedType → Prop
  /-- What is said about a promoted model, given the models promoted before it. -/
  model : List Model → Model → Prop
  type_mono {ms ms' : List Model} {t : ResolvedType} : ms <+: ms' → type ms t → type ms' t
  any (ms : List Model) : type ms r.any
  named {ms : List Model} {name : String} :
    r.components.IsModelName name → type ms (.ofModel name)
  promoted {ms : List Model} {m : Model} : m ∈ ms → type ms (.ofModel m.name.text)
  enum {ms : List Model} {s : Schema} {location name : String} {e : EnumType} :
    r.profile.enumType r.flags s location = .ok e → type ms (.ofTarget (.named name) (.enum e))
  primitive {ms : List Model} {kind : SchemaType} {format : Option String} {location : String}
    {t : ResolvedType} : r.profile.primitive kind format location = .ok t → type ms t
  union {ms : List Model} {u : UnionType ResolvedType} :
    IsUnion (type ms) u → type ms (.ofTarget r.profile.any (.union u))
  array {ms : List Model} {t : ResolvedType} (n : Nullability) :
    type ms t → type ms ((Layer.array (.boxed n)).wrap r.profile t)
  map {ms : List Model} {t : ResolvedType} (n : Nullability) :
    type ms t → type ms ((Layer.map (.boxed n)).wrap r.profile t)
  arrayOfAny (ms : List Model) : type ms ((Layer.array .asIs).wrap r.profile r.any)
  mapOfAny (ms : List Model) : type ms ((Layer.map .asIs).wrap r.profile r.any)
  built {ms : List Model} {text : String} {m : Model} :
    r.IsModel (type ms) (Name.ofText text) m → model ms m

namespace Law

variable {r}
variable (L : r.Law)

/-- The lists of promoted models of which a law holds: every model comes under a name of its own,
which is not that of a named schema. -/
inductive Promoted : List Model → Prop where
  | nil : Promoted []
  | push {ms : List Model} {m : Model} (h : Promoted ms) (law : L.model ms m)
      (named : m.name = Name.ofText m.name.text)
      (fresh : m.name.text ∉ ms.map fun m => m.name.text)
      (other : m.name.text ∉ r.components.modelNames) : Promoted (ms ++ [m])

/-- The states in which a law holds: the names of the promoted models and of the named schemas
are taken. -/
structure Sound (st : Promotions) : Prop where
  promoted : L.Promoted st.models
  taken : ∀ m ∈ st.models, m.name.text ∈ st.names.taken
  named : r.components.modelNames ⊆ st.names.taken

/-- A resolving keeps a law, lets the state grow, and answers what is said of it. -/
def Keeps {α : Type} (st : Promotions) (x : Resolving α) (Q : List Model → α → Prop) : Prop :=
  L.Sound (x.outcome st).2 ∧ st.Extends (x.outcome st).2 ∧
    ∀ a, (x.outcome st).1 = .ok a → Q (x.outcome st).2.models a

/-- A way to resolve a schema keeps a law and answers shapes of which it holds. -/
def KeepsShape (shape : Shape) : Prop :=
  ∀ {st : Promotions}, L.Sound st → ∀ usage node, L.Keeps st (shape usage node) L.type

variable {L}
variable {α β : Type} {st : Promotions} {x : Resolving α} {f : α → Resolving β}
  {P Q : List Model → α → Prop} {R : List Model → β → Prop}

/-! ### Rules for keeping a law -/

theorem Keeps.pure {a : α} (hst : L.Sound st) (h : P st.models a) :
    L.Keeps st (Pure.pure a) P :=
  ⟨hst, .refl st, fun _ e => by cases e; exact h⟩

theorem Keeps.throw {e : ResolveError} (hst : L.Sound st) :
    L.Keeps st (MonadExcept.throw e) P :=
  ⟨hst, .refl st, fun _ h => by cases h⟩

theorem Keeps.lift {e : Except ResolveError α} (hst : L.Sound st)
    (h : ∀ a, e = .ok a → P st.models a) : L.Keeps st (liftM e) P :=
  ⟨hst, .refl st, h⟩

theorem Keeps.weaken (hx : L.Keeps st x P) (h : ∀ ms a, P ms a → Q ms a) : L.Keeps st x Q :=
  ⟨hx.1, hx.2.1, fun a e => h _ a (hx.2.2 a e)⟩

/-- What follows an answer starts in a sound state that has grown. -/
theorem Keeps.bind (hx : L.Keeps st x P)
    (hf : ∀ a st', L.Sound st' → st.Extends st' → P st'.models a → L.Keeps st' (f a) R) :
    L.Keeps st (x >>= f) R := by
  obtain ⟨hsound, hextends, hanswer⟩ := hx
  rw [Keeps, Resolving.outcome_bind]
  rcases hout : x.outcome st with ⟨_ | a, st'⟩ <;> rw [hout] at hsound hextends hanswer
  · exact ⟨hsound, hextends, fun _ h => by cases h⟩
  · obtain ⟨hs, he, ha⟩ := hf a st' hsound hextends (hanswer a rfl)
    exact ⟨hs, hextends.trans he, ha⟩

/-- Answers in order, of each of which something stays true. -/
theorem Keeps.mapM {Q : List Model → α → β → Prop}
    (mono : ∀ {ms ms' a b}, ms <+: ms' → Q ms a b → Q ms' a b) :
    ∀ {l : List α} {st : Promotions}, L.Sound st →
      (∀ a ∈ l, ∀ st', L.Sound st' → L.Keeps st' (f a) fun ms b => Q ms a b) →
      L.Keeps st (l.mapM f) fun ms bs => List.Forall₂ (Q ms) l bs
  | [], st, hst, _ => .pure hst .nil
  | a :: l, st, hst, hf => by
    rw [List.mapM_cons]
    refine (hf a List.mem_cons_self st hst).bind fun b st₁ h₁ _ hb => ?_
    refine (Keeps.mapM (Q := Q) mono h₁ fun a' ha' => hf a' (List.mem_cons_of_mem a ha')).bind
      fun bs st₂ h₂ hext hbs => ?_
    exact .pure h₂ (.cons (mono hext.models_prefix hb) hbs)

/-- A check of what may be missing. -/
theorem Keeps.liftOption {g : α → Except ResolveError β} {o : Option α} (hst : L.Sound st) :
    L.Keeps st (o.mapM fun a => liftM (g a)) fun _ b => ∀ b' ∈ b, ∃ a ∈ o, g a = .ok b' := by
  cases o with
  | none => exact .pure hst (by simp)
  | some a =>
    rw [Option.mapM_some, map_eq_pure_bind]
    refine (Keeps.lift (P := fun _ b => g a = .ok b) hst fun _ h => h).bind
      fun b st₁ h₁ _ hb => .pure h₁ ?_
    simpa using hb

end Law

end Resolver

end ApiModel
