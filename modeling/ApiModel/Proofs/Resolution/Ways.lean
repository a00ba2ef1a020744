import ApiModel.Proofs.Resolution.Detectors
import ApiModel.Proofs.Resolution.Following

/-!
# The way from a schema position, step by step

From a pointer the way goes on into the component that it names, unless references to it stay
references; from a schema it goes on to its lone branch, to its items or to the values of its map.
At every place there is at most one such step. So a way either comes to an end, and then it has
come into no component twice, or it comes into some component for a second time. Until then it takes
fewer steps than there are schema positions, since each step leaves the position from which it is
taken behind.

Walking to a leaf goes this way. It keeps the names of the components, and stops when it would come
into one of them again.

## Main definitions

* `Place`: a schema position and where it stands.
* `Components.Step`, `Components.Way`: one step, and a number of steps.
* `Components.Ends`, `Components.Revisits`: the way ends, or comes into some component twice.
* `Components.leafAt`: what the place is at which a way ends.

## Main results

* `Components.Way.nodup`: a way that ends comes into no component twice.
* `Components.Way.lt_size`: how many steps there are until a component is met again.
* `Components.ends_or_revisits`: there are no other ways.
* `Components.Way.walk_eq`, `Components.Way.walk_circular`: what walking answers along a way.
* `Components.exists_walk_iff`: when walking answers.
-/

namespace ApiModel

/-- A schema position and where it stands in the contract. -/
structure Place where
  /-- Where it stands. -/
  location : String
  /-- The position. -/
  node : SchemaNode

namespace Components

/-! ### Steps -/

/-- One step of a way, with the name of the component into which it leads, if it does. -/
inductive Step (c : Components) : Place → Option String → Place → Prop
  | enter {location pointer name : String} {target : SchemaNode}
      (hname : componentName "schemas" pointer = .ok name)
      (hfound : c.schemas.lookup name = some target) (hother : target.isModel = false) :
      Step c ⟨location, .ref pointer⟩ (some name) ⟨pointerTo "schemas" name, target⟩
  | lone {location : String} {s : Schema} {branch : SchemaNode} (hform : s.form = .lone branch) :
      Step c ⟨location, .inline s⟩ none ⟨location, branch⟩
  | items {location : String} {s : Schema} {items : SchemaNode}
      (hform : s.form = .array (some items)) :
      Step c ⟨location, .inline s⟩ none ⟨location ++ "/items", items⟩
  | values {location : String} {s : Schema} {values : SchemaNode} (hform : s.form = .map values) :
      Step c ⟨location, .inline s⟩ none ⟨location ++ "/additionalProperties", values⟩

/-- A number of steps, with the names of the components into which they lead in order. -/
inductive Way (c : Components) : Place → Nat → List String → Place → Prop
  | here (a : Place) : Way c a 0 [] a
  | step {a b z : Place} {entered : Option String} {n : Nat} {names : List String}
      (h : c.Step a entered b) (hrest : Way c b n names z) :
      Way c a (n + 1) (entered.toList ++ names) z

/-- There is no step from a place. -/
def Ends (c : Components) (a : Place) : Prop := ∀ entered b, ¬c.Step a entered b

/-- The way from a place comes into some component twice. -/
def Revisits (c : Components) (a : Place) : Prop :=
  ∃ n names z, c.Way a n names z ∧ ¬names.Nodup

variable {c : Components} {a b z z' : Place} {entered entered' : Option String} {n m k : Nat}
  {names names' : List String} {location name : String} {node : SchemaNode} {s : Schema}
  {chain : Chain}

/-- There is at most one step from a place. -/
theorem Step.unique (h : c.Step a entered b) (h' : c.Step a entered' z) :
    entered = entered' ∧ b = z := by
  cases h with
  | enter hname hfound =>
    cases h' with
    | enter hname' hfound' =>
      obtain rfl := Except.ok.inj (hname.symm.trans hname')
      obtain rfl := Option.some.inj (hfound.symm.trans hfound')
      exact ⟨rfl, rfl⟩
  | lone hform | items hform | values hform =>
    cases h' with
    | lone hform' | items hform' | values hform' =>
      rw [hform] at hform'
      cases hform' <;> exact ⟨rfl, rfl⟩

/-- A step from a schema leads to a position that it holds. -/
theorem Step.mem_parts (h : c.Step ⟨location, .inline s⟩ entered b) :
    entered = none ∧ b.node ∈ s.form.parts := by
  cases h with
  | lone hform | items hform | values hform =>
    rw [hform]
    exact ⟨rfl, List.mem_singleton.mpr rfl⟩

/-- The same steps are taken from a position wherever it stands. -/
theorem Step.relocate (h : c.Step a entered b) (hnode : z.node = a.node) :
    ∃ b', c.Step z entered b' ∧ b'.node = b.node := by
  obtain ⟨location, node⟩ := z
  obtain rfl : node = a.node := hnode
  cases h with
  | enter hname hfound hother => exact ⟨_, .enter hname hfound hother, rfl⟩
  | lone hform => exact ⟨_, .lone hform, rfl⟩
  | items hform => exact ⟨_, .items hform, rfl⟩
  | values hform => exact ⟨_, .values hform, rfl⟩

theorem Ends.relocate (h : c.Ends a) (hnode : z.node = a.node) : c.Ends z := by
  intro entered b hstep
  obtain ⟨b', hstep', -⟩ := hstep.relocate hnode.symm
  exact h entered b' hstep'

/-! ### Ways -/

namespace Way

theorem trans (h : c.Way a n names b) (h' : c.Way b m names' z) :
    c.Way a (n + m) (names ++ names') z := by
  induction h with
  | here => rwa [Nat.zero_add]
  | step hstep _ ih =>
    rw [List.append_assoc, Nat.succ_add]
    exact .step hstep (ih h')

theorem relocate (h : c.Way a n names b) (hnode : z.node = a.node) :
    ∃ b', c.Way z n names b' ∧ b'.node = b.node := by
  induction h generalizing z with
  | here => exact ⟨z, .here z, hnode⟩
  | step hstep _ ih =>
    obtain ⟨next, hnext, hnode'⟩ := hstep.relocate hnode
    obtain ⟨b', hrest, hb'⟩ := ih hnode'
    exact ⟨b', .step hnext hrest, hb'⟩

/-- What holds of a position, and goes over from every position to the next, holds of all positions
on the way. -/
theorem holds {P : SchemaNode → Prop} (h : c.Way a n names z) (ha : P a.node)
    (hstep : ∀ a entered b, c.Step a entered b → P a.node → P b.node) : P z.node := by
  induction h with
  | here => exact ha
  | step hfirst _ ih => exact ih (hstep _ _ _ hfirst ha)

/-- A way that ends passes through every place to which there is a way. -/
theorem exists_rest (h : c.Way a n names z) (hz : c.Ends z) (hpart : c.Way a k names' b) :
    ∃ m rest, n = k + m ∧ names = names' ++ rest ∧ c.Way b m rest z := by
  induction hpart generalizing n names with
  | here => exact ⟨n, names, (Nat.zero_add n).symm, rfl, h⟩
  | step hstep _ ih =>
    cases h with
    | here => exact absurd hstep (hz _ _)
    | step hstep' hrest =>
      obtain ⟨rfl, rfl⟩ := hstep.unique hstep'
      obtain ⟨m, rest, rfl, rfl, hway⟩ := ih hrest
      exact ⟨m, rest, by omega, (List.append_assoc _ _ _).symm, hway⟩

/-- Ways from one place that end take the same number of steps. -/
theorem length_unique (h : c.Way a n names z) (hz : c.Ends z) (h' : c.Way a m names' z')
    (hz' : c.Ends z') : n = m := by
  obtain ⟨k, -, hn, -⟩ := h.exists_rest hz h'
  obtain ⟨k', -, hm, -⟩ := h'.exists_rest hz' h
  omega

/-- Ways from one place that end do so at one place. -/
theorem end_unique (h : c.Way a n names z) (hz : c.Ends z) (h' : c.Way a m names' z')
    (hz' : c.Ends z') : z = z' := by
  obtain ⟨_, _, -, -, hrest⟩ := h.exists_rest hz h'
  cases hrest with
  | here => rfl
  | step hstep => exact absurd hstep (hz' _ _)

/-- From a component into which a way comes there are fewer steps left. -/
theorem exists_of_mem (h : c.Way a n names z) (hmem : name ∈ names) : ∃ target m rest,
    c.schemas.lookup name = some target ∧ m < n ∧
      c.Way ⟨pointerTo "schemas" name, target⟩ m rest z := by
  induction h with
  | here => cases hmem
  | @step a b z entered n names hstep hrest ih =>
    rcases List.mem_append.mp hmem with hmem | hmem
    · obtain rfl := Option.mem_toList.mp hmem
      cases hstep with
      | enter _ hfound => exact ⟨_, n, names, hfound, Nat.lt_succ_self n, hrest⟩
    · obtain ⟨target, m, rest, hfound, hm, hway⟩ := ih hmem
      exact ⟨target, m, rest, hfound, Nat.lt_succ_of_lt hm, hway⟩

/-- A way that ends comes into no component twice: after the second time as many steps would be left
as after the first one. -/
theorem nodup (h : c.Way a n names z) (hz : c.Ends z) : names.Nodup := by
  induction h with
  | here => exact List.nodup_nil
  | @step a b z entered n names hstep hrest ih =>
    cases entered with
    | none => exact ih hz
    | some name =>
      refine List.nodup_cons.mpr ⟨fun hmem => ?_, ih hz⟩
      obtain ⟨target, m, rest, hfound, hm, hway⟩ := hrest.exists_of_mem hmem
      cases hstep with
      | enter _ hfound' =>
        obtain rfl := Option.some.inj (hfound.symm.trans hfound')
        exact Nat.ne_of_gt hm (hrest.length_unique hz hway hz)

/-- A way that ends is the only one, so there is none that comes into a component twice. -/
theorem not_revisits (h : c.Way a n names z) (hz : c.Ends z) : ¬c.Revisits a := by
  rintro ⟨k, names', b, hpart, htwice⟩
  obtain ⟨m, rest, -, rfl, -⟩ := h.exists_rest hz hpart
  exact htwice (List.nodup_append.mp (h.nodup hz)).1

/-- With every step the positions that are left become fewer: those at the place and below, and
those of the components into which the way has not come. -/
theorem add_weightBeyond_le (h : c.Way a n names z) (chain : Chain)
    (hnodup : (chain.names ++ names).Nodup) :
    n + weightBeyond SchemaNode.size (chain.names ++ names) c.schemas + z.node.size ≤
      weightBeyond SchemaNode.size chain.names c.schemas + a.node.size := by
  induction h generalizing chain with
  | here => simp
  | @step a b z entered n names hstep hrest ih =>
    have hrest := ih ⟨chain.names ++ entered.toList⟩ (by rwa [List.append_assoc])
    simp only [List.append_assoc] at hrest
    cases hstep with
    | @enter location pointer name target hname hfound =>
      have hfresh : name ∉ chain.names := fun hmem =>
        (List.nodup_append.mp hnodup).2.2 name hmem name List.mem_cons_self rfl
      have hless : weightBeyond SchemaNode.size (chain.names ++ [name]) c.schemas + target.size ≤
          weightBeyond SchemaNode.size chain.names c.schemas := weightBeyond_lt hfound hfresh
      simp only [Option.toList_some, SchemaNode.size] at hrest ⊢
      omega
    | @lone location s branch hform =>
      have hless := s.size_of_form_lone hform
      simp only [Option.toList_none, List.append_nil, List.nil_append, SchemaNode.size] at hrest ⊢
      omega
    | @items location s items hform =>
      have hless := s.size_of_form_array hform
      simp only [Option.toList_none, List.append_nil, List.nil_append, SchemaNode.size] at hrest ⊢
      omega
    | @values location s values hform =>
      have hless := s.size_of_form_map hform
      simp only [Option.toList_none, List.append_nil, List.nil_append, SchemaNode.size] at hrest ⊢
      omega

/-- A way that comes into no component twice takes fewer steps than there are schema positions. -/
theorem lt_size (h : c.Way a n names z) (hnodup : names.Nodup) :
    n < c.size + a.node.size := by
  have hle := h.add_weightBeyond_le .empty hnodup
  have hpos := z.node.size_pos
  simp only [Chain.empty] at hle
  rw [size]
  omega

end Way

/-- A way ends, or comes into some component twice or into one of those on a chain. -/
theorem ends_or_revisits_beyond (c : Components) (chain : Chain) (location : String)
    (node : SchemaNode) : (∃ n names z, c.Way ⟨location, node⟩ n names z ∧ c.Ends z) ∨
      ∃ n names z, c.Way ⟨location, node⟩ n names z ∧ ¬(chain.names ++ names).Nodup := by
  induction chain, node using c.induction generalizing location with
  | ref chain pointer ih =>
    by_cases hstep : ∃ entered b, c.Step ⟨location, .ref pointer⟩ entered b
    · obtain ⟨_, _, hstep⟩ := hstep
      cases hstep with
      | @enter _ _ name target hname hfound hother =>
        have hstep : c.Step ⟨location, .ref pointer⟩ (some name)
            ⟨pointerTo "schemas" name, target⟩ := .enter hname hfound hother
        by_cases hfresh : name ∈ chain.names
        · refine .inr ⟨1, _, _, .step hstep (.here _), fun hnodup => ?_⟩
          exact (List.nodup_append.mp hnodup).2.2 name hfresh name List.mem_cons_self rfl
        · rcases ih name target hfound hfresh (pointerTo "schemas" name) with
            ⟨n, names, z, hway, hz⟩ | ⟨n, names, z, hway, htwice⟩
          · exact .inl ⟨n + 1, _, z, .step hstep hway, hz⟩
          · refine .inr ⟨n + 1, _, z, .step hstep hway, ?_⟩
            rwa [← List.append_assoc]
    · exact .inl ⟨0, [], _, .here _, fun entered b h => hstep ⟨entered, b, h⟩⟩
  | inline chain s ih =>
    by_cases hstep : ∃ entered b, c.Step ⟨location, .inline s⟩ entered b
    · obtain ⟨entered, b, hstep⟩ := hstep
      obtain ⟨rfl, hpart⟩ := hstep.mem_parts
      rcases ih b.node (s.parts_form_subset hpart) b.location with
        ⟨n, names, z, hway, hz⟩ | ⟨n, names, z, hway, htwice⟩
      · exact .inl ⟨n + 1, _, z, .step hstep hway, hz⟩
      · exact .inr ⟨n + 1, _, z, .step hstep hway, htwice⟩
    · exact .inl ⟨0, [], _, .here _, fun entered b h => hstep ⟨entered, b, h⟩⟩

/-- A way ends, or comes into some component twice. -/
theorem ends_or_revisits (c : Components) (a : Place) :
    (∃ n names z, c.Way a n names z ∧ c.Ends z) ∨ c.Revisits a :=
  c.ends_or_revisits_beyond .empty a.location a.node

/-! ### Walking along a way -/

/-- What the place is at which a way ends: a leaf, inside a container of any values if the schema is
one. -/
def leafAt (c : Components) : SchemaNode → Except ResolveError (List Layer × Leaf)
  | .ref pointer =>
    match componentName "schemas" pointer with
    | .error e => .error e
    | .ok name =>
      match c.schemas.lookup name with
      | none => .error (.missingTarget pointer)
      | some _ => .ok ([], .model (Name.ofText name).pascalCase)
  | .inline s =>
    match s.form with
    | .array _ => .ok ([.array .asIs], .any)
    | .mapOfAny => .ok ([.map .asIs], .any)
    | _ => .ok ([], .schema s)

/-- Where a way ends, walking finds what the place is, whatever components it has come into. -/
theorem Ends.walk_eq (h : c.Ends ⟨location, node⟩) (chain : Chain) :
    c.walk chain location node =
      (c.leafAt node).map fun leaf => { layers := leaf.1, location, leaf := leaf.2 } := by
  cases node with
  | ref pointer =>
    rw [walk_ref, leafAt]
    rcases hname : componentName "schemas" pointer with e | name
    · rfl
    dsimp only
    rcases hfound : c.schemas.lookup name with _ | target
    · rfl
    dsimp only
    rw [if_pos]
    · rfl
    · by_contra hother
      exact h _ _ (.enter hname hfound (by simpa using hother))
  | inline s =>
    rw [walk_inline, leafAt]
    rcases hform : s.form with _ | _ | branch | _ | _ | _ | (_ | items) | values | _ | _ | _
    case lone => exact absurd (.lone hform) (h _ _)
    case array.some => exact absurd (.items hform) (h _ _)
    case map => exact absurd (.values hform) (h _ _)
    all_goals rfl

/-- The component of a pointer that is walked leads to a schema through pointers alone. -/
theorem exists_endsIn_of_walk {pointer : String} {w : Walk}
    (h : c.walk chain location (.ref pointer) = .ok w) : ∃ name n s,
      componentName "schemas" pointer = .ok name ∧
        EndsIn "schemas" SchemaNode.referable c.schemas n name s := by
  generalize hnode : SchemaNode.ref pointer = node at h
  induction chain, node using c.induction generalizing location pointer with
  | inline => cases hnode
  | ref chain pointer' ih =>
    cases hnode
    rw [walk_ref] at h
    split at h
    · cases h
    next name hname =>
    split at h
    · cases h
    next target hfound =>
    cases target with
    | inline s => exact ⟨name, 0, s, hname, .content hfound rfl⟩
    | ref next =>
      rw [SchemaNode.isModel_ref, if_neg Bool.false_ne_true] at h
      split at h
      · cases h
      next hfresh =>
        obtain ⟨name', n, s, hname', hends⟩ := ih name _ hfound hfresh rfl h
        exact ⟨name, n + 1, s, hname, .pointer hfound rfl hname' hends⟩

/-- A position that is walked leads to a schema through pointers alone. -/
theorem exists_target_of_walk {w : Walk} (h : c.walk chain location node = .ok w) :
    ∃ s, c.target node = .ok s := by
  cases node with
  | inline s => exact ⟨s, rfl⟩
  | ref pointer =>
    obtain ⟨name, n, s, hname, hends⟩ := exists_endsIn_of_walk h
    exact ⟨s, follow_eq_ok_iff.mpr ⟨name, n, hname, hends⟩⟩

end Components

/-! ### Walking step by step -/

/-- A way inside further containers. -/
def Walk.inside (layers : List Layer) (w : Walk) : Walk := { w with layers := layers ++ w.layers }

theorem Walk.map_inside_nil (way : Except ResolveError Walk) : way.map (inside []) = way := by
  cases way <;> rfl

theorem Walk.map_inside_inside (layers layers' : List Layer) (way : Except ResolveError Walk) :
    (way.map (inside layers')).map (inside layers) = way.map (inside (layers ++ layers')) := by
  rcases way with e | w
  · rfl
  · exact congrArg (fun l => Except.ok { w with layers := l }) (List.append_assoc ..).symm

/-- The way to an element or a value is a way inside of its container, if there is a rule for the
element whenever there is such a way. -/
theorem Walk.exists_inside (layer : ElementRule → Layer) {way : Except ResolveError Walk}
    {target : Except ResolveError Schema} (h : ∀ w, way = .ok w → ∃ s, target = .ok s) :
    ∃ layers, (do
      let w ← way
      let s ← target
      return { w with layers := layer (.ofTarget s) :: w.layers } : Except ResolveError Walk) =
      way.map (inside layers) := by
  rcases way with e | w
  · exact ⟨[], rfl⟩
  · obtain ⟨s, rfl⟩ := h w rfl
    exact ⟨[layer (.ofTarget s)], rfl⟩

namespace Components

variable {c : Components} {a b z : Place} {entered : Option String} {n : Nat}
  {names : List String} {location : String} {node : SchemaNode} {chain : Chain}

/-- Walking takes the step that the way takes, unless that leads into a component on the chain. -/
theorem Step.walk_eq (h : c.Step a entered b) (hfresh : ∀ name ∈ entered, name ∉ chain.names) :
    ∃ layers, c.walk chain a.location a.node =
      (c.walk ⟨chain.names ++ entered.toList⟩ b.location b.node).map (Walk.inside layers) := by
  cases h with
  | @enter location pointer name target hname hfound hother =>
    refine ⟨[], ?_⟩
    rw [Walk.map_inside_nil, walk_ref, hname]
    simp only [hfound, hother, Bool.false_eq_true, if_false, if_neg (hfresh name rfl)]
    rfl
  | lone hform =>
    refine ⟨[], ?_⟩
    rw [Walk.map_inside_nil, Option.toList_none, List.append_nil, walk_inline, hform]
  | items hform =>
    rw [Option.toList_none, List.append_nil, walk_inline, hform]
    exact Walk.exists_inside .array fun w hw => exists_target_of_walk hw
  | values hform =>
    rw [Option.toList_none, List.append_nil, walk_inline, hform]
    exact Walk.exists_inside .map fun w hw => exists_target_of_walk hw

/-- Walking goes along a way that comes into no component twice, nor into one on the chain. -/
theorem Way.walk_eq (h : c.Way a n names z) (chain : Chain)
    (hnodup : (chain.names ++ names).Nodup) :
    ∃ layers, c.walk chain a.location a.node =
      (c.walk ⟨chain.names ++ names⟩ z.location z.node).map (Walk.inside layers) := by
  induction h generalizing chain with
  | here =>
    refine ⟨[], ?_⟩
    rw [Walk.map_inside_nil, List.append_nil]
  | @step a b z entered n names hstep hrest ih =>
    rw [← List.append_assoc] at hnodup ⊢
    obtain ⟨layers', hway⟩ := ih ⟨chain.names ++ entered.toList⟩ hnodup
    have hfresh : ∀ name ∈ entered, name ∉ chain.names := fun name hname hmem =>
      (List.nodup_append.mp (List.nodup_append.mp hnodup).1).2.2 name hmem name
        (Option.mem_toList.mpr hname) rfl
    obtain ⟨layers, hstep⟩ := hstep.walk_eq hfresh
    exact ⟨layers ++ layers', by rw [hstep, hway, Walk.map_inside_inside]⟩

/-- Walking reports a cycle where a way comes into a component twice, or into one on the chain. -/
theorem Way.walk_circular (h : c.Way a n names z) (chain : Chain) (hchain : chain.names.Nodup)
    (htwice : ¬(chain.names ++ names).Nodup) :
    ∃ e, c.walk chain a.location a.node = .error e ∧ e.isCircular = true := by
  induction h generalizing chain with
  | here => exact absurd (by rwa [List.append_nil]) htwice
  | @step a b z entered n names hstep hrest ih =>
    by_cases hfresh : ∀ name ∈ entered, name ∉ chain.names
    · have hentered : (chain.names ++ entered.toList).Nodup := by
        refine List.nodup_append.mpr ⟨hchain, by cases entered <;> simp, ?_⟩
        rintro name hmem _ hname rfl
        exact hfresh name (Option.mem_toList.mp hname) hmem
      rw [← List.append_assoc] at htwice
      obtain ⟨e, hwalk, hcircular⟩ :=
        ih ⟨chain.names ++ entered.toList⟩ hentered htwice
      obtain ⟨layers, hstep⟩ := hstep.walk_eq hfresh
      exact ⟨e, by rw [hstep, hwalk]; rfl, hcircular⟩
    · push Not at hfresh
      obtain ⟨name, rfl, hmem⟩ := hfresh
      cases hstep with
      | @enter location _ _ _ hname hfound hother =>
        refine ⟨.circular location (chain.closedBy name), ?_, rfl⟩
        rw [walk_ref, hname]
        simp only [hfound, hother, Bool.false_eq_true, if_false, if_pos hmem]

/-- Along a way that ends, walking answers what the place is at which it ends. -/
theorem Way.walk_of_ends (h : c.Way a n names z) (hz : c.Ends z) :
    ∃ layers, c.walk .empty a.location a.node = (c.leafAt z.node).map fun leaf =>
      { layers := layers ++ leaf.1, location := z.location, leaf := leaf.2 } := by
  obtain ⟨layers, hwalk⟩ := h.walk_eq .empty (h.nodup hz)
  refine ⟨layers, ?_⟩
  rw [hwalk, hz.walk_eq]
  rcases c.leafAt z.node with e | leaf <;> rfl

theorem Revisits.walk_circular (h : c.Revisits a) :
    ∃ e, c.walk .empty a.location a.node = .error e ∧ e.isCircular = true := by
  obtain ⟨n, names, z, hway, htwice⟩ := h
  exact hway.walk_circular .empty List.nodup_nil htwice

/-- Walking answers where the way ends, and there is a leaf at its end. -/
theorem exists_walk_iff : (∃ w, c.walk .empty location node = .ok w) ↔
    ∃ n names z leaf, c.Way ⟨location, node⟩ n names z ∧ c.Ends z ∧
      c.leafAt z.node = .ok leaf := by
  constructor
  · rintro ⟨w, hw⟩
    rcases c.ends_or_revisits ⟨location, node⟩ with ⟨n, names, z, hway, hz⟩ | htwice
    · obtain ⟨layers, hwalk⟩ := hway.walk_of_ends hz
      rcases hleaf : c.leafAt z.node with e | leaf
      · rw [hleaf] at hwalk
        cases hw.symm.trans hwalk
      · exact ⟨n, names, z, leaf, hway, hz, hleaf⟩
    · obtain ⟨e, hwalk, -⟩ := htwice.walk_circular
      cases hw.symm.trans hwalk
  · rintro ⟨n, names, z, leaf, hway, hz, hleaf⟩
    obtain ⟨layers, hwalk⟩ := hway.walk_of_ends hz
    rw [hleaf] at hwalk
    exact ⟨_, hwalk⟩

end Components

end ApiModel
