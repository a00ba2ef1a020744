import ApiModel.Proofs.Resolution.Law

/-!
# What a resolver answers obeys its laws

Each part of a resolver keeps a law, when the way in which it resolves the schemas inside does.
The way from a schema leads through containers to a leaf; the shapes of the leaves are tied
together by the count of nested leaves.

## Main definitions

* `Walk.Regular`: the containers on a way and its leaf.

## Main results

* `Resolver.Law.keepsShape_shape`: the shapes of a resolver.
* `Resolver.Law.keeps_resolve`, `Resolver.Law.keeps_component`, `Resolver.Law.keeps_operation`:
  its answers.
* `Resolver.Law.run_component`, `Resolver.Law.run_operation`: its answers when nothing has been
  promoted before.
-/

namespace ApiModel

/-! ### The way to a leaf -/

/-- The containers on a way: elements are boxed, unless nothing is known about them. -/
inductive Walk.Regular : List Layer → Leaf → Prop where
  | leaf (l : Leaf) : Regular [] l
  | arrayOfAny : Regular [.array .asIs] .any
  | mapOfAny : Regular [.map .asIs] .any
  | array {layers : List Layer} {l : Leaf} (n : Nullability) (h : Regular layers l) :
      Regular (.array (.boxed n) :: layers) l
  | map {layers : List Layer} {l : Leaf} (n : Nullability) (h : Regular layers l) :
      Regular (.map (.boxed n) :: layers) l

namespace Components

variable {c : Components}

/-- Every way is regular, and ends at a model only where references stay references. -/
theorem walk_regular {chain : Chain} {location : String} {node : SchemaNode} {w : Walk}
    (h : c.walk chain location node = .ok w) :
    Walk.Regular w.layers w.leaf ∧ ∀ name, w.leaf = .model name → c.IsModelName name := by
  fun_induction c.walk chain location node generalizing w with
  | case1 => cases h
  | case2 => cases h
  | case3 chain location pointer name hname target hfound hmodel =>
    cases h
    exact ⟨.leaf _, fun n hn => by cases hn; exact ⟨name, target, hfound, hmodel, rfl⟩⟩
  | case4 => cases h
  | case5 _ _ _ _ _ _ _ _ _ ih => exact ih h
  | case6 _ _ _ _ _ ih => exact ih h
  | case7 chain location s items hform w' target htarget hw ih =>
    cases h
    exact ⟨.array _ (ih hw).1, (ih hw).2⟩
  | case8 => cases h
  | case9 => cases h
  | case10 => cases h; exact ⟨.arrayOfAny, fun _ hn => by cases hn⟩
  | case11 chain location s values hform w' target htarget hw ih =>
    cases h
    exact ⟨.map _ (ih hw).1, (ih hw).2⟩
  | case12 => cases h
  | case13 => cases h
  | case14 => cases h; exact ⟨.mapOfAny, fun _ hn => by cases hn⟩
  | case15 => cases h; exact ⟨.leaf _, fun _ hn => by cases hn⟩

theorem schemaAt_eq_ok {pointer name : String} {node : SchemaNode}
    (h : c.schemaAt pointer = .ok (name, node)) : c.schemas.lookup name = some node := by
  simp only [schemaAt, bind, Except.bind, pure, Except.pure] at h
  split at h
  · cases h
  split at h <;> cases h
  next hschema =>
    rw [schema] at hschema
    split at hschema <;> cases hschema
    assumption

end Components

/-- A schema that can be a parent is a model. -/
theorem SchemaNode.isModel_of_isParent {node : SchemaNode} (h : node.isParent = true) :
    node.isModel = true := by
  cases node with
  | ref => simp [isParent, schema?] at h
  | inline s =>
    rcases (by simpa [isParent, schema?] using h : s.hasProperties = true ∨ s.allOf ≠ [])
      with h | h <;> simp [SchemaBody.isModel, SchemaBody.isComposed, h]

/-- The parent of an all-of is a named schema to which references stay references. -/
theorem Components.isModelName_of_parentOf {c : Components} {origin location name : String}
    {s : Schema} (h : c.parentOf origin s location = .ok (some name)) : c.IsModelName name := by
  rw [parentOf] at h
  split at h
  · cases h
  simp only [bind, Except.bind, pure, Except.pure] at h
  split at h
  · cases h
  next parent hparent =>
    split at h
    next hobject =>
      split at h <;> cases h
      exact ⟨parent.1, parent.2, schemaAt_eq_ok hparent,
        SchemaNode.isModel_of_isParent hobject, rfl⟩
    · cases h

namespace Resolver.Law

variable {r : Resolver} {L : r.Law} {st : Promotions} {shape : Shape}

/-! ### Containers and leaves -/

/-- A law holds of a leaf inside the containers on its way. -/
theorem type_wrap {ms : List Model} {layers : List Layer} {l : Leaf} {t : ResolvedType}
    (h : Walk.Regular layers l) (hany : l = .any → t = r.any) (ht : L.type ms t) :
    L.type ms (layers.foldr (fun layer t => layer.wrap r.profile t) t) := by
  induction h with
  | leaf => exact ht
  | arrayOfAny => exact hany rfl ▸ L.arrayOfAny ms
  | mapOfAny => exact hany rfl ▸ L.mapOfAny ms
  | array n _ ih => exact L.array n (ih hany)
  | map n _ ih => exact L.map n (ih hany)

theorem keeps_resolveWith (hs : L.KeepsShape shape) (hst : L.Sound st) (usage : Usage)
    (node : SchemaNode) :
    L.Keeps st (r.resolveWith shape usage node) fun ms t => r.Used (L.type ms) usage node t := by
  refine (hs hst usage node).bind fun t st₁ h₁ _ ht => ?_
  refine (Keeps.lift (P := fun _ target => r.components.target node = .ok target) h₁
    fun _ h => h).bind fun target st₂ h₂ hext htarget => ?_
  exact .pure h₂ ⟨target, t, htarget, L.type_mono hext.models_prefix ht, rfl⟩

/-! ### Unions -/

theorem keeps_unionType (hs : L.KeepsShape shape) (hst : L.Sound st) (usage : Usage)
    (s : Schema) :
    L.Keeps st (unionType shape usage s) fun ms u => IsUnion (L.type ms) u := by
  rw [unionType]
  rcases unionBranches s with ⟨keyword, branches⟩
  refine (Keeps.mapM (Q := fun ms _ t => L.type ms t) L.type_mono hst
    fun b _ st' h' => hs h' _ _).bind fun members st₁ h₁ _ hm => ?_
  refine (Keeps.liftOption h₁).bind fun d st₂ h₂ hext hd => ?_
  refine .pure h₂ ⟨fun t ht => ?_, fun d' hd' => ?_⟩
  · obtain ⟨b, -, h⟩ := exists_of_forall₂ hm ht
    exact L.type_mono hext.models_prefix h
  · obtain ⟨declared, -, h⟩ := hd d' hd'
    exact ⟨branches, declared, h⟩

/-! ### Fields and models -/

theorem keeps_field (hs : L.KeepsShape shape) (hst : L.Sound st) (owner location : String)
    (p : Property) :
    L.Keeps st (r.field shape owner location p) fun ms f =>
      r.IsField (L.type ms) owner p f := by
  rw [field]
  refine (keeps_resolveWith hs hst _ _).bind fun t st₁ h₁ _ ht => ?_
  refine (Keeps.lift (P := fun _ target => r.components.target p.node = .ok target) h₁
    fun _ h => h).bind fun target st₂ h₂ hext htarget => ?_
  have hused := Used.mono (fun t => L.type_mono (t := t) hext.models_prefix) ht
  exact .pure h₂ ⟨rfl, rfl, rfl, ⟨_, hused⟩, ⟨target, htarget, rfl⟩, rfl⟩

theorem keeps_fields (hs : L.KeepsShape shape) (hst : L.Sound st) (owner location : String)
    (properties : List Property) :
    L.Keeps st (r.fields shape owner location properties) fun ms fields =>
      r.AreFields (L.type ms) owner properties fields := by
  refine (Keeps.mapM (Q := fun ms p f => r.IsField (L.type ms) owner p f)
    (fun hms => IsField.mono fun t => L.type_mono hms) hst
    fun p _ st' h' => keeps_field hs h' owner location p).bind fun asked st₁ h₁ _ hasked => ?_
  exact .pure h₁ ⟨asked, hasked, rfl⟩

theorem keeps_synonym (hs : L.KeepsShape shape) (hst : L.Sound st) (name : Name)
    (description : Option String) (location : String) (node : SchemaNode) :
    L.Keeps st (r.synonym shape { name, description } name.pascalCase location node)
      fun ms m => r.IsModel (L.type ms) name m := by
  refine (keeps_resolveWith hs hst _ _).bind fun t st₁ h₁ _ ht => ?_
  exact .pure h₁ (.synonym ht)

theorem keeps_object (hs : L.KeepsShape shape) (hst : L.Sound st) (name : Name)
    (description parent : Option String) (hparent : ∀ n ∈ parent, r.components.IsModelName n)
    (location : String) (properties : List Property) (d : Option ContractDiscriminator) :
    L.Keeps st
      (r.object shape { name, description, parent } name.pascalCase location properties d)
      fun ms m => r.IsModel (L.type ms) name m := by
  refine (keeps_fields hs hst _ _ _).bind fun fields st₁ h₁ _ hfields => ?_
  refine (Keeps.liftOption h₁).bind fun d' st₂ h₂ hext hd => ?_
  obtain ⟨asked, hasked, rfl⟩ := hfields
  have hasked' : List.Forall₂ (r.IsField (L.type st₂.models) name.pascalCase) properties asked :=
    hasked.imp fun p f => IsField.mono fun t => L.type_mono hext.models_prefix
  exact .pure h₂ (.object hparent ⟨asked, hasked', rfl⟩ fun e he =>
    (hd e he).elim fun declared h => ⟨[], declared, h.2⟩)

theorem keeps_compose (hs : L.KeepsShape shape) (hst : L.Sound st) (name : Name)
    (description : Option String) (location : String) (s : Schema) :
    L.Keeps st (r.compose shape { name, description } name.pascalCase location s)
      fun ms m => r.IsModel (L.type ms) name m := by
  rw [compose]
  split
  · exact keeps_synonym hs hst name description location _
  · refine (Keeps.lift (P := fun _ parent => ∀ n ∈ parent, r.components.IsModelName n) hst
      fun parent h n hn => ?_).bind fun parent st₁ h₁ _ hparent => ?_
    · obtain rfl : parent = some n := hn
      exact Components.isModelName_of_parentOf h
    split
    · exact keeps_object hs h₁ name description _ hparent location _ _
    · refine (Keeps.lift (P := fun _ _ => True) h₁ fun _ _ => trivial).bind
        fun merged st₂ h₂ _ _ => ?_
      split
      · exact keeps_synonym hs h₂ name description location _
      · exact .pure h₂ (.object (by simp) ⟨[], .nil, rfl⟩ (by simp))
      · exact keeps_object hs h₂ name description none (by simp) location _ _

theorem keeps_buildModel (hs : L.KeepsShape shape) (hst : L.Sound st) (name : Name)
    (s : Schema) (location : String) :
    L.Keeps st (r.buildModel shape name s location)
      fun ms m => r.IsModel (L.type ms) name m := by
  rw [buildModel]
  dsimp only
  split
  · refine (Keeps.lift (P := fun _ e => r.profile.enumType r.flags s location = .ok e) hst
      fun _ h => h).bind fun e st₁ h₁ _ he => ?_
    exact .pure h₁ (.enum he)
  split
  · refine (keeps_unionType hs hst _ s).bind fun u st₁ h₁ _ hu => ?_
    exact .pure h₁ (.union hu)
  split
  · exact keeps_compose hs hst name s.description location s
  split
  · exact keeps_object hs hst name s.description none (by simp) location _ _
  · exact keeps_synonym hs hst name s.description location _

/-! ### Promoted models -/

theorem Sound.claim (hst : L.Sound st) (base : String) :
    L.Sound { st with names := (st.names.claim base).2 } where
  promoted := hst.promoted
  taken m hm := List.mem_cons_of_mem _ (hst.taken m hm)
  named := fun _ hn => List.mem_cons_of_mem _ (hst.named hn)

theorem Sound.push {m : Model} (hst : L.Sound st) (law : L.model st.models m)
    (named : m.name = Name.ofText m.name.text)
    (htaken : m.name.text ∈ st.names.taken)
    (fresh : m.name.text ∉ st.models.map fun m => m.name.text)
    (other : m.name.text ∉ r.components.modelNames) :
    L.Sound { st with models := st.models ++ [m] } where
  promoted := .push hst.promoted law named fresh other
  taken m' hm' := by
    rcases List.mem_append.mp hm' with hm' | hm'
    · exact hst.taken m' hm'
    · obtain rfl := List.mem_singleton.mp hm'
      exact htaken
  named := hst.named

/-- A name that was free before is new among the models, also when further ones have been
promoted after it was taken. -/
theorem notMem_of_extends {after : Promotions} {base : String} (hst : L.Sound st)
    (h : Promotions.Extends { st with names := (st.names.claim base).2 } after) :
    st.names.grant base ∉ after.models.map fun m => m.name.text := by
  obtain ⟨new, hmodels, hnew⟩ := h.models
  intro hmem
  obtain ⟨m, hm, hname⟩ := List.mem_map.mp hmem
  rw [hmodels] at hm
  rcases List.mem_append.mp hm with hm | hm
  · exact st.names.grant_notMem base (hname ▸ hst.taken m hm)
  · exact hnew m hm (by rw [Allocator.taken_claim, hname]; exact List.mem_cons_self)

/-- A promoted model comes after the models inside it, under a name that was free before. -/
theorem keeps_promote (hs : L.KeepsShape shape) (hst : L.Sound st) (usage : Usage) (s : Schema) :
    L.Keeps st (r.promote shape usage s) fun ms name => ∃ m ∈ ms, m.name.text = name := by
  rw [Keeps, promote, Resolving.outcome_bind, Resolving.outcome_claim]
  dsimp only
  set name := st.names.grant usage.inlineName with hname
  have hclaim := Promotions.Extends.claim st usage.inlineName
  obtain ⟨hsound, hext, hbuilt⟩ := keeps_buildModel hs (hst.claim usage.inlineName)
    (Name.ofText name) s usage.location
  rw [Resolving.outcome_bind]
  rcases hout : (r.buildModel shape (Name.ofText name) s usage.location).outcome
    { st with names := (st.names.claim usage.inlineName).2 } with ⟨_ | m, st₂⟩ <;>
    rw [hout] at hsound hext hbuilt
  · exact ⟨hsound, hclaim.trans hext, fun _ h => by cases h⟩
  have hmodel := hbuilt m rfl
  have htext : m.name.text = name := by rw [hmodel.name_eq, Name.text_ofText]
  have hfree : name ∉ st.names.taken := st.names.grant_notMem _
  have htaken : name ∈ st₂.names.taken := hext.taken List.mem_cons_self
  have hpush : L.Sound { st₂ with models := st₂.models ++ [m] } :=
    hsound.push (L.built hmodel) (htext ▸ hmodel.name_eq) (htext ▸ htaken)
      (htext ▸ notMem_of_extends hst hext) (htext ▸ fun h => hfree (hst.named h))
  refine ⟨hpush, (hclaim.trans hext).push (htext ▸ hfree), fun a ha => ?_⟩
  cases ha
  exact ⟨m, List.mem_append_right _ (List.mem_singleton.mpr rfl), htext⟩

/-! ### The shape of a schema -/

theorem keeps_leafType (hs : L.KeepsShape shape) (hst : L.Sound st) (usage : Usage) {l : Leaf}
    (hl : ∀ name, l = .model name → r.components.IsModelName name) :
    L.Keeps st (r.leafType shape usage l) fun ms t => L.type ms t ∧ (l = .any → t = r.any) := by
  cases l with
  | model name => exact .pure hst ⟨L.named (hl name rfl), by simp⟩
  | any => exact .pure hst ⟨L.any _, fun _ => rfl⟩
  | schema s =>
    suffices h : L.Keeps st (r.leafType shape usage (.schema s)) L.type from
      h.weaken fun ms t ht => ⟨ht, by simp⟩
    unfold leafType
    dsimp only
    split
    · refine (Keeps.lift (P := fun _ e => r.profile.enumType r.flags s usage.location = .ok e)
        hst fun _ h => h).bind fun e st₁ h₁ _ he => ?_
      exact .pure h₁ (L.enum he)
    · refine (keeps_unionType hs hst usage s).bind fun u st₁ h₁ _ hu => ?_
      exact .pure h₁ (L.union hu)
    · refine (keeps_promote hs hst usage s).bind fun name st₁ h₁ _ hname => ?_
      obtain ⟨m, hm, rfl⟩ := hname
      exact .pure h₁ (L.promoted hm)
    · refine (keeps_promote hs hst usage s).bind fun name st₁ h₁ _ hname => ?_
      obtain ⟨m, hm, rfl⟩ := hname
      exact .pure h₁ (L.promoted hm)
    · refine (Keeps.lift (P := fun ms ts => ∀ t ∈ ts, L.type ms t) hst
        fun ts hts t ht => ?_).bind fun ts st₁ h₁ _ hts => ?_
      · obtain ⟨kind, -, h⟩ := exists_of_forall₂ (forall₂_of_mapM_ok hts) ht
        exact L.primitive h
      · exact .pure h₁ (L.union ⟨hts, by simp⟩)
    · exact .lift hst fun t ht => L.primitive ht
    · exact .pure hst (L.any _)

theorem keepsShape_shapeByWalk {inner : Leaf → Shape} (hs : ∀ l, L.KeepsShape (inner l)) :
    L.KeepsShape (r.shapeByWalk inner) := by
  intro st hst usage node
  refine (Keeps.lift (P := fun _ w => Walk.Regular w.layers w.leaf ∧
    ∀ name, w.leaf = .model name → r.components.IsModelName name) hst
    fun w hw => Components.walk_regular hw).bind fun w st₁ h₁ _ hw => ?_
  refine (keeps_leafType (hs w.leaf) h₁ _ hw.2).bind fun t st₂ h₂ _ ht => ?_
  exact .pure h₂ (type_wrap hw.1 ht.2 ht.1)

theorem keepsShape_shapeWithin : ∀ n, L.KeepsShape (r.shapeWithin n)
  | 0 => fun hst _ _ => .throw hst
  | n + 1 => keepsShape_shapeByWalk fun _ => keepsShape_shapeWithin n

/-- The shapes of a resolver keep its laws. -/
theorem keepsShape_shape : L.KeepsShape r.shape :=
  keepsShape_shapeByWalk fun l => keepsShape_shapeWithin (r.components.size + l.size)

/-! ### The answers of a resolver -/

theorem keeps_resolve (hst : L.Sound st) (usage : Usage) (node : SchemaNode) :
    L.Keeps st (r.resolve usage node) fun ms t => r.Used (L.type ms) usage node t :=
  keeps_resolveWith keepsShape_shape hst usage node

theorem keeps_component (hst : L.Sound st) (name : String) (node : SchemaNode) :
    L.Keeps st (r.component name node) fun ms m => r.IsModel (L.type ms) (Name.ofText name) m := by
  unfold component
  cases node with
  | inline s => exact keeps_buildModel keepsShape_shape hst _ s _
  | ref pointer => exact keeps_synonym keepsShape_shape hst _ none _ _
theorem keeps_parameter (hst : L.Sound st) (owner location : String) (q : Parameter) :
    L.Keeps st (r.parameter owner location q) fun ms a => r.IsParameter (L.type ms) q a := by
  rw [parameter]
  dsimp only
  split
  next node hnode =>
    simp only [pure_bind]
    refine (keeps_resolve hst _ _).bind fun t st₁ h₁ _ ht => ?_
    refine (Keeps.lift (P := fun _ _ => True) h₁ fun _ _ => trivial).bind
      fun target st₂ h₂ hext _ => ?_
    have hused := Used.mono (fun t => L.type_mono (t := t) hext.models_prefix) ht
    exact .pure h₂ ⟨rfl, rfl, rfl, rfl, .inr ⟨node, owner, location, hnode, hused⟩⟩
  next hnode =>
    simp only [pure_bind]
    exact .pure hst ⟨rfl, rfl, rfl, rfl, .inl ⟨hnode, rfl⟩⟩

theorem keeps_parameters (hst : L.Sound st) (owner location : String) (item : PathItem)
    (op : Operation) :
    L.Keeps st (r.parameters owner location item op) fun ms ps =>
      ∃ declared asked, List.Forall₂ (r.IsParameter (L.type ms)) (mergeParameters declared) asked ∧
        ps = numberParameters asked := by
  rw [parameters]
  refine (Keeps.lift (P := fun _ _ => True) hst fun _ _ => trivial).bind
    fun declared st₁ h₁ _ _ => ?_
  refine (Keeps.mapM (Q := fun ms q a => r.IsParameter (L.type ms) q a)
    (fun hms => IsParameter.mono fun t => L.type_mono hms) h₁
    fun q _ st' h' => keeps_parameter h' owner location q).bind fun asked st₂ h₂ _ hasked => ?_
  exact .pure h₂ ⟨declared, asked, hasked, rfl⟩

theorem keeps_requestBody (hst : L.Sound st) (owner location : String)
    (body : Referable RequestBody) :
    L.Keeps st (r.requestBody owner location body) fun ms b =>
      ∀ b' ∈ b, r.IsBody (L.type ms) b' := by
  rw [requestBody]
  refine (Keeps.lift (P := fun _ _ => True) hst fun _ _ => trivial).bind
    fun body st₁ h₁ _ _ => ?_
  split
  · exact .pure h₁ (by simp)
  dsimp only
  split
  · refine (keeps_resolve h₁ _ _).bind fun t st₂ h₂ _ ht => .pure h₂ ?_
    rintro _ ⟨⟩
    exact .inr ⟨_, _, rfl, ht⟩
  · rw [pure_bind]
    refine .pure h₁ ?_
    rintro _ ⟨⟩
    exact .inl rfl

theorem keeps_responseOf (hst : L.Sound st) (owner location : String) (op : Operation) :
    L.Keeps st (r.responseOf owner location op) fun ms t => r.IsResponse (L.type ms) t := by
  rw [responseOf]
  split
  · exact .pure hst (.inl rfl)
  refine (Keeps.lift (P := fun _ _ => True) hst fun _ _ => trivial).bind
    fun response st₁ h₁ _ _ => ?_
  split
  · exact .pure h₁ (.inl rfl)
  next node _ =>
    refine (keeps_resolve h₁ _ _).bind fun t st₂ h₂ _ ht => .pure h₂ ?_
    exact .inr ⟨_, _, node, t, ht, rfl⟩

theorem keeps_operation (hst : L.Sound st) (endpoint : Endpoint) :
    L.Keeps st (r.operation endpoint) fun ms op => r.IsOperation (L.type ms) op := by
  rw [operation]
  dsimp only
  refine (keeps_parameters hst _ _ _ _).bind fun ps st₁ h₁ _ hps => ?_
  -- both branches end alike, so what they make of their answers is shown once
  have assemble {st₂ st₃ : Promotions} {op : ApiOperation} (h₁₂ : st₁.Extends st₂)
      (h₂₃ : st₂.Extends st₃) (hbody : ∀ b ∈ op.requestBody, r.IsBody (L.type st₂.models) b)
      (hresponse : r.IsResponse (L.type st₃.models) op.response) (hparameters : op.parameters = ps)
      (hshape : op.shape = r.profile.returnShape op.response r.flags) :
      r.IsOperation (L.type st₃.models) op := by
    have mono (t : ResolvedType) : L.type st₂.models t → L.type st₃.models t :=
      L.type_mono h₂₃.models_prefix
    obtain ⟨declared, asked, hasked, rfl⟩ := hps
    exact ⟨⟨declared, asked, hasked.imp fun _ _ => IsParameter.mono fun t ht =>
      mono t (L.type_mono h₁₂.models_prefix ht), hparameters⟩,
      fun b hb => IsBody.mono mono (hbody b hb), hresponse, hshape⟩
  split
  · refine (keeps_requestBody h₁ _ _ _).bind fun body st₂ h₂ h₁₂ hbody => ?_
    refine (keeps_responseOf h₂ _ _ _).bind fun response st₃ h₃ h₂₃ hresponse => ?_
    exact .pure h₃ (assemble h₁₂ h₂₃ hbody hresponse rfl rfl)
  · rw [pure_bind]
    refine (keeps_responseOf h₁ _ _ _).bind fun response st₃ h₃ h₁₃ hresponse => ?_
    exact .pure h₃ (assemble (.refl st₁) h₁₃ (by simp) hresponse rfl rfl)

/-! ### Answers from nothing promoted -/

/-- At first nothing is promoted. -/
theorem sound_initial (L : r.Law) : L.Sound (Promotions.initial r.components) where
  promoted := .nil
  taken m hm := by cases hm
  named := fun _ hn => List.mem_append_left _ hn

theorem run_eq_ok {α : Type} {x : Resolving α} {Q : List Model → α → Prop} {a : α}
    {promoted : List Model} (hx : L.Keeps (Promotions.initial r.components) x Q)
    (h : r.run x = .ok (a, promoted)) : Q promoted a ∧ L.Promoted promoted := by
  obtain ⟨hsound, -, hanswer⟩ := hx
  obtain ⟨st', hout, rfl⟩ := exists_outcome_of_run h
  rw [hout] at hsound hanswer
  exact ⟨hanswer a rfl, hsound.promoted⟩

/-- The model of a named schema, and the models that it promotes. -/
theorem run_component (L : r.Law) {name : String} {node : SchemaNode} {m : Model}
    {promoted : List Model} (h : r.run (r.component name node) = .ok (m, promoted)) :
    r.IsModel (L.type promoted) (Name.ofText name) m ∧ L.Promoted promoted :=
  run_eq_ok (keeps_component L.sound_initial name node) h

/-- An operation, and the models that it promotes. -/
theorem run_operation (L : r.Law) {endpoint : Endpoint} {op : ApiOperation}
    {promoted : List Model} (h : r.run (r.operation endpoint) = .ok (op, promoted)) :
    r.IsOperation (L.type promoted) op ∧ L.Promoted promoted :=
  run_eq_ok (keeps_operation L.sound_initial endpoint) h

end Resolver.Law

end ApiModel
