import ApiModel.Proofs.Contract.Respelling
import ApiModel.Proofs.Document.Entries
import ApiModel.Proofs.Resolution.Steps

/-!
# Plain spellings on the way

Looking up, walking to a leaf and merging branches ask a schema for what its type keywords say, and
never for the keywords themselves. So they meet in the plain spelling of a contract what they meet
in the contract, spelled plainly.

## Main definitions

* `SchemaForm.plain`, `Walk.plain`, `Property.plain`, `Merged.plain`: plain spellings of what is
  met.

## Main results

* `Components.target_plain`: where pointers lead.
* `SchemaBody.form_plain`: what counts in a schema.
* `Components.walk_plain`: the way to a leaf.
* `Components.parentOf_plain`, `inheritedProperties_plain`, `Components.merge_plain`: the parent of
  an all-of, and what its branches come to.
-/

namespace ApiModel

/-! ### Looking up -/

theorem follow_map {α α' β β' : Type} {f : α → α'} {g : β → β'} {view : β → Referable α}
    {view' : β' → Referable α'} (hview : ∀ b, view' (g b) = (view b).map f) (kind : String)
    (entries : List (String × β)) (location : Option String) (chain : Chain) (pointer : String) :
    follow kind view' (entries.map (Prod.map id g)) location chain pointer =
      (follow kind view entries location chain pointer).map f := by
  fun_induction follow kind view entries location chain pointer with
  | case1 chain pointer e hname =>
    rw [follow_eq, hname]
    rfl
  | case2 chain pointer name hname hon =>
    rw [follow_eq, hname]
    exact if_pos hon
  | case3 chain pointer name hname hfresh hfound =>
    rw [follow_eq]
    simp only [hname, if_neg hfresh, lookup_map_snd, hfound]
    rfl
  | case4 chain pointer name hname hfresh b hfound a hb =>
    rw [follow_eq]
    simp only [hname, if_neg hfresh, lookup_map_snd, hfound, Option.map_some, hview, hb]
    rfl
  | case5 chain pointer name hname hfresh b hfound next hb ih =>
    rw [← ih, follow_eq]
    simp only [hname, if_neg hfresh, lookup_map_snd, hfound, Option.map_some, hview, hb]
    rfl

namespace Components

variable (c : Components)

theorem target_plain (node : SchemaNode) :
    c.plain.target node.plain = (c.target node).map SchemaBody.plain := by
  cases node with
  | inline s => rfl
  | ref pointer => exact follow_map (fun b => by cases b <;> rfl) ..

theorem parameter_plain (pointer : String) :
    c.plain.parameter pointer = (c.parameter pointer).map Parameter.plain := by
  rw [parameter, parameter]
  exact follow_map (fun x => by rfl) ..

theorem requestBody_plain (pointer : String) :
    c.plain.requestBody pointer = (c.requestBody pointer).map RequestBody.plain := by
  rw [requestBody, requestBody]
  exact follow_map (fun x => by rfl) ..

theorem response_plain (pointer : String) :
    c.plain.response pointer = (c.response pointer).map Response.plain := by
  rw [response, response]
  exact follow_map (fun x => by rfl) ..

theorem schemaNames_plain : c.plain.schemaNames = c.schemaNames := by
  rw [schemaNames, plain, List.map_map]
  rfl

theorem lookup_schemas_plain (name : String) :
    c.plain.schemas.lookup name = (c.schemas.lookup name).map SchemaNode.plain :=
  lookup_map_snd ..

theorem schema_plain (name : String) :
    c.plain.schema name = (c.schema name).map SchemaNode.plain := by
  rw [schema, schema, lookup_schemas_plain]
  cases c.schemas.lookup name <;> rfl

theorem schemaAt_plain (pointer : String) :
    c.plain.schemaAt pointer = (c.schemaAt pointer).map (Prod.map id SchemaNode.plain) := by
  rw [schemaAt, schemaAt]
  rcases componentName "schemas" pointer with e | name
  · rfl
  · change (c.plain.schema name >>= fun s => pure (name, s)) =
      (c.schema name >>= fun s => pure (name, s)).map _
    rw [schema_plain]
    cases c.schema name <;> rfl

end Components

theorem weightBeyond_map {α β : Type} {f : α → β} {weight : α → Nat} {weight' : β → Nat}
    (h : ∀ a, weight' (f a) = weight a) (names : List String) (entries : List (String × α)) :
    weightBeyond weight' names (entries.map (Prod.map id f)) =
      weightBeyond weight names entries := by
  induction entries with
  | nil => rfl
  | cons e rest ih => rw [List.map_cons, Prod.map, id, weightBeyond, weightBeyond, ih, h]

theorem Components.size_plain (c : Components) : c.plain.size = c.size :=
  weightBeyond_map SchemaNode.size_plain ..

/-! ### The form of a schema -/

/-- The plain spelling of what counts in a schema. -/
def SchemaForm.plain : SchemaForm → SchemaForm
  | lone branch => lone branch.plain
  | array items => array (items.map SchemaNode.plain)
  | map values => map values.plain
  | form => form

namespace SchemaBody

variable (s : Schema)

@[simp] theorem isComposed_plain : s.plain.isComposed = s.isComposed := by
  simp [isComposed]

@[simp] theorem isUnion_plain : s.plain.isUnion = s.isUnion := by
  simp [isUnion]

@[simp] theorem isEnum_plain : s.plain.isEnum = s.isEnum := by
  simp [isEnum]

@[simp] theorem hasProperties_plain : s.plain.hasProperties = s.hasProperties := by
  simp [hasProperties]

@[simp] theorem isRequired_plain (property : String) :
    s.plain.isRequired property = s.isRequired property := by
  simp [isRequired]

@[simp] theorem isModel_plain : s.plain.isModel = s.isModel := by
  simp [isModel]

theorem mapForm_plain : s.plain.mapForm = s.mapForm.plain := by
  rw [mapForm, mapForm, additionalProperties_plain]
  rcases s.additionalProperties with _ | (_ | _) | _ <;> rfl

theorem typeForm_plain : s.plain.typeForm = s.typeForm.plain := by
  simp only [typeForm, typeAlternatives_plain, primaryType_plain, items_plain,
    additionalProperties_plain, mapForm_plain, Option.isSome_map]
  repeat' split
  all_goals rfl

theorem form_plain : s.plain.form = s.form.plain := by
  simp only [form, isEnum_plain, isUnion_plain, hasProperties_plain, typeForm_plain, allOf_plain]
  split
  · rfl
  · split
    · rfl
    · rcases s.allOf with _ | ⟨b, _ | ⟨b', rest⟩⟩ <;> dsimp only [List.map_nil, List.map_cons]
      · cases s.hasProperties <;> rfl
      · cases s.hasProperties <;> rfl
      · rfl

end SchemaBody

@[simp] theorem SchemaNode.isModel_plain (node : SchemaNode) :
    node.plain.isModel = node.isModel := by
  cases node with
  | ref => rfl
  | inline s => exact s.isModel_plain

/-! ### The way to a leaf -/

/-- The plain spelling of a leaf. -/
def Leaf.plain : Leaf → Leaf
  | schema s => schema s.plain
  | leaf => leaf

/-- The plain spelling of the leaf of a way. -/
def Walk.plain (w : Walk) : Walk := { w with leaf := w.leaf.plain }

theorem Leaf.size_plain (leaf : Leaf) : leaf.plain.size = leaf.size := by
  cases leaf with
  | schema s => exact (SchemaNode.inline s).size_plain
  | model | any => rfl

theorem ElementRule.ofTarget_plain (s : Schema) : ofTarget s.plain = ofTarget s := by
  rw [ofTarget, ofTarget, s.nullableMarker_plain]

/-- The way to an element or a value, and its container. -/
theorem Walk.plain_inside (layer : ElementRule → Layer) (way : Except ResolveError Walk)
    (node : Except ResolveError Schema) :
    (do
      let w ← way.map Walk.plain
      let target ← node.map SchemaBody.plain
      return { w with layers := layer (.ofTarget target) :: w.layers }) =
    (do
      let w ← way
      let target ← node
      return { w with layers := layer (.ofTarget target) :: w.layers } :
        Except ResolveError Walk).map Walk.plain := by
  rcases way with _ | w
  · rfl
  · rcases node with _ | target
    · rfl
    · exact congrArg (fun rule => Except.ok { w.plain with layers := layer rule :: w.layers })
        (ElementRule.ofTarget_plain target)

/-- The way from a position ends where it ended, at the plain spelling of the leaf. -/
theorem Components.walk_plain (c : Components) (chain : Chain) (location : String)
    (node : SchemaNode) : c.plain.walk chain location node.plain =
      (c.walk chain location node).map Walk.plain := by
  induction chain, node using c.induction generalizing location with
  | ref chain pointer ih =>
    rw [SchemaNode.plain_ref, walk_ref, walk_ref]
    rcases componentName "schemas" pointer with e | name
    · rfl
    · dsimp only
      rw [lookup_schemas_plain]
      rcases hfound : c.schemas.lookup name with _ | target
      · rfl
      · dsimp only [Option.map_some]
        rw [target.isModel_plain]
        split
        · rfl
        · split
          · rfl
          next hfresh => exact ih name target hfound hfresh _
  | inline chain s ih =>
    -- The way goes on only to the parts that the form names, not to all parts of the schema.
    have below (part : SchemaNode) (h : part ∈ s.form.parts) := ih part (s.parts_form_subset h)
    rw [SchemaNode.plain_inline, walk_inline, walk_inline, s.form_plain]
    generalize s.form = form at below
    rcases form with _ | _ | branch | _ | _ | _ | (_ | items) | values | _ | _ | _
    any_goals rfl
    · exact below branch (List.mem_singleton.mpr rfl) _
    · dsimp only [SchemaForm.plain, Option.map_some]
      rw [below items (List.mem_singleton.mpr rfl), c.target_plain]
      exact Walk.plain_inside .array _ _
    · dsimp only [SchemaForm.plain]
      rw [below values (List.mem_singleton.mpr rfl), c.target_plain]
      exact Walk.plain_inside .map _ _

/-! ### All-of -/

/-- The plain spelling of a property. -/
def Property.plain (p : Property) : Property := { p with node := p.node.plain }

theorem filterMap_pointer?_plain (nodes : List SchemaNode) :
    (nodes.map SchemaNode.plain).filterMap SchemaNode.pointer? =
      nodes.filterMap SchemaNode.pointer? := by
  rw [List.filterMap_map]
  exact List.filterMap_congr fun node _ => node.pointer?_plain

theorem filterMap_schema?_plain (nodes : List SchemaNode) :
    (nodes.map SchemaNode.plain).filterMap SchemaNode.schema? =
      (nodes.filterMap SchemaNode.schema?).map SchemaBody.plain := by
  rw [List.filterMap_map, List.map_filterMap]
  exact List.filterMap_congr fun node _ => node.schema?_plain

namespace SchemaBody

variable (s : Schema)

@[simp] theorem isPropertySet_plain : s.plain.isPropertySet = s.isPropertySet := by
  simp [isPropertySet]

theorem ownProperties_plain : s.plain.ownProperties = s.ownProperties.map Property.plain := by
  simp only [ownProperties, properties_plain, List.map_map]
  exact List.map_congr_left fun e _ => by simp [Property.plain]

@[simp] theorem mergeKind_plain : s.plain.mergeKind = s.mergeKind := by
  simp [mergeKind]

@[simp] theorem isValue_plain : s.plain.isValue = s.isValue := by
  simp [isValue]

end SchemaBody

theorem extensionPointer_plain (s : Schema) : extensionPointer s.plain = extensionPointer s := by
  have hall (schemas : List Schema) : (schemas.map SchemaBody.plain).all SchemaBody.isPropertySet =
      schemas.all SchemaBody.isPropertySet := by
    rw [List.all_map]
    exact congrArg _ (funext fun s => s.isPropertySet_plain)
  rw [extensionPointer, extensionPointer, s.allOf_plain, filterMap_pointer?_plain,
    filterMap_schema?_plain, hall]

theorem SchemaNode.isParent_plain (node : SchemaNode) : node.plain.isParent = node.isParent := by
  cases node with
  | ref => rfl
  | inline s => simp [isParent]

theorem bind_extensionPointer_plain (node : SchemaNode) :
    node.plain.schema?.bind extensionPointer = node.schema?.bind extensionPointer := by
  cases node with
  | ref => rfl
  | inline s => exact extensionPointer_plain s

/-- The properties that have been added, with their plain spellings. -/
abbrev plainAdded (properties : List (String × SchemaNode × Bool)) :
    List (String × SchemaNode × Bool) :=
  properties.map (Prod.map id (Prod.map SchemaNode.plain id))

theorem addProperties_plain (properties : List (String × SchemaNode × Bool)) (s : Schema) :
    addProperties (plainAdded properties) s.plain = plainAdded (addProperties properties s) := by
  rw [addProperties, addProperties, s.properties_plain, List.foldl_map]
  refine List.foldl_hom plainAdded fun acc ⟨name, node⟩ => ?_
  simp only [plainAdded, Prod.map, id, lookup_map_snd, Option.any_map, s.isRequired_plain,
    ← setEntry_map]

theorem foldl_addProperties_plain (schemas : List Schema)
    (properties : List (String × SchemaNode × Bool)) :
    (schemas.map SchemaBody.plain).foldl addProperties (plainAdded properties) =
      plainAdded (schemas.foldl addProperties properties) := by
  rw [List.foldl_map]
  exact List.foldl_hom plainAdded addProperties_plain

theorem inheritedProperties_plain (s : Schema) :
    inheritedProperties s.plain = (inheritedProperties s).map Property.plain := by
  have hschemas : s.plain.allOf.filterMap SchemaNode.schema? ++ [s.plain] =
      (s.allOf.filterMap SchemaNode.schema? ++ [s]).map SchemaBody.plain := by
    rw [s.allOf_plain, filterMap_schema?_plain, List.map_append, List.map_singleton]
  have hadded := foldl_addProperties_plain (s.allOf.filterMap SchemaNode.schema? ++ [s]) []
  rw [inheritedProperties, inheritedProperties, hschemas, ← List.map_nil, hadded, List.map_map,
    List.map_map]
  rfl

namespace Components

variable (c : Components)

theorem checkAncestors_plain (location : String) (chain : Chain) (pointer : String) :
    c.plain.checkAncestors location chain pointer = c.checkAncestors location chain pointer := by
  fun_induction c.checkAncestors location chain pointer with
  | case1 chain pointer e hname => rw [checkAncestors_eq, hname]
  | case2 chain pointer name hname hfound =>
    rw [checkAncestors_eq]
    simp only [hname, lookup_schemas_plain, hfound, Option.map_none]
  | case3 chain pointer name hname ancestor hfound hon =>
    rw [checkAncestors_eq]
    simp only [hname, lookup_schemas_plain, hfound, Option.map_some, if_pos hon]
  | case4 chain pointer name hname ancestor hfound hfresh hnext =>
    rw [checkAncestors_eq]
    simp only [hname, lookup_schemas_plain, hfound, Option.map_some, if_neg hfresh,
      bind_extensionPointer_plain, hnext]
  | case5 chain pointer name hname ancestor hfound hfresh next hnext ih =>
    rw [checkAncestors_eq]
    simp only [hname, lookup_schemas_plain, hfound, Option.map_some, if_neg hfresh,
      bind_extensionPointer_plain, hnext, ih]

theorem parentOf_plain (origin : String) (s : Schema) (location : String) :
    c.plain.parentOf origin s.plain location = c.parentOf origin s location := by
  rw [parentOf, parentOf, extensionPointer_plain]
  rcases extensionPointer s with _ | pointer
  · rfl
  · dsimp only
    rw [schemaAt_plain]
    rcases c.schemaAt pointer with e | ⟨name, parent⟩
    · rfl
    · simp [Except.map, parent.isParent_plain, checkAncestors_plain, bind, Except.bind]

end Components

/-- The plain spellings of the schemas that are merged. -/
def Flattened.plain (f : Flattened) : Flattened :=
  { f with schemas := f.schemas.map SchemaBody.plain }

theorem Flattened.append_plain (a b : Flattened) : (a.append b).plain = a.plain.append b.plain := by
  obtain ⟨schemas, _ | e⟩ := a
  · simp [append, plain]
  · rfl

/-- The plain spelling of what has been merged. -/
def Merged.plain (m : Merged) : Merged :=
  { m with
    properties := m.properties.map (Prod.map id SchemaNode.plain)
    value := m.value.map SchemaBody.plain }

namespace Merged

variable (m : Merged) (s : Schema)

theorem fault?_plain : m.plain.fault? s.plain = m.fault? s := by
  simp only [fault?, s.isUnion_plain, s.isEnum_plain, s.mergeKind_plain, plain]

theorem add_plain : m.plain.add s.plain = (m.add s).plain := by
  have hproperties : (s.properties.map (Prod.map id SchemaNode.plain)).foldl
      (fun acc e => setEntry e.1 e.2 acc) (m.properties.map (Prod.map id SchemaNode.plain)) =
        (s.properties.foldl (fun acc e => setEntry e.1 e.2 acc) m.properties).map
          (Prod.map id SchemaNode.plain) := by
    rw [List.foldl_map]
    exact List.foldl_hom _ fun acc e => setEntry_map SchemaNode.plain e.1 e.2 acc
  have hvalue : (m.value.map SchemaBody.plain).or (if s.isValue then some s.plain else none) =
      (m.value.or (if s.isValue then some s else none)).map SchemaBody.plain := by
    rw [Option.map_or]
    split <;> rfl
  simp only [add, plain, s.mergeKind_plain, s.properties_plain, s.required_plain, s.isValue_plain,
    s.discriminator_plain, hproperties, hvalue]

theorem addAll_plain (location : String) (schemas : List Schema) :
    m.plain.addAll location (schemas.map SchemaBody.plain) =
      (m.addAll location schemas).map Merged.plain := by
  induction schemas generalizing m with
  | nil => rfl
  | cons s rest ih =>
    rw [List.map_cons, addAll, addAll, fault?_plain]
    rcases m.fault? s with _ | fault
    · dsimp only
      rw [add_plain, ih]
    · rfl

theorem toProperties_plain : m.plain.toProperties = m.toProperties.map Property.plain := by
  rw [toProperties, toProperties, plain, List.map_map, List.map_map]
  rfl

end Merged

namespace Components

variable (c : Components) (location : String)

theorem flattenAll_plain (chain : Chain) (branches : List SchemaNode)
    (h : ∀ b ∈ branches,
      c.plain.flatten location chain b.plain = (c.flatten location chain b).plain) :
    c.plain.flattenAll location chain (branches.map SchemaNode.plain) =
      (c.flattenAll location chain branches).plain := by
  induction branches with
  | nil =>
    rw [List.map_nil, flattenAll, flattenAll]
    rfl
  | cons b rest ih =>
    rw [List.map_cons, flattenAll, flattenAll, h b List.mem_cons_self,
      ih fun b hb => h b (List.mem_cons_of_mem _ hb), Flattened.append_plain]

/-- A branch merges the plain spellings of what it merged. -/
theorem flatten_plain (chain : Chain) (node : SchemaNode) :
    c.plain.flatten location chain node.plain = (c.flatten location chain node).plain := by
  induction chain, node using c.induction with
  | ref chain pointer ih =>
    rw [SchemaNode.plain_ref, flatten_ref, flatten_ref]
    rcases componentName "schemas" pointer with e | name
    · rfl
    · dsimp only
      rw [lookup_schemas_plain]
      rcases hfound : c.schemas.lookup name with _ | target
      · rfl
      · dsimp only [Option.map_some]
        split
        · rfl
        next hfresh => exact ih name target hfound hfresh
  | inline chain s ih =>
    have hbranches := c.flattenAll_plain location chain s.allOf fun b hb =>
      ih b (SchemaBody.mem_parts.mpr (.inr (.inr (.inr (.inl hb)))))
    rw [SchemaNode.plain_inline, flatten_inline, flatten_inline, s.allOf_plain, hbranches,
      Flattened.append_plain]
    rfl

theorem merge_plain (s : Schema) :
    c.plain.merge location s.plain = (c.merge location s).map Merged.plain := by
  have hflatten : c.plain.flatten location .empty (.inline s.plain) =
      (c.flatten location .empty (.inline s)).plain := c.flatten_plain location .empty (.inline s)
  have hadd := Merged.addAll_plain {} location (c.flatten location .empty (.inline s)).schemas
  simp only [merge, hflatten, Flattened.plain]
  change (Merged.addAll location (Merged.plain {}) _ >>= _) = _
  rw [hadd]
  rcases Merged.addAll location {} (c.flatten location .empty (.inline s)).schemas with e | m
  · rfl
  · rcases hstop : (c.flatten location .empty (.inline s)).stop <;> rfl

end Components

end ApiModel
