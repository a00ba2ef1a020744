import ApiModel.Proofs.Resolution.ModelForm
import ApiModel.Proofs.Resolution.Ways

/-!
# Checks that are made elsewhere

A check is told where it is made, in order to say so when it fails. What it answers does not depend
on that, and neither does whether it fails. Likewise a walk may start anywhere, and may come into a
component from a pointer or start from there: it ends at the same leaf, inside the same containers.

## Main definitions

* `Alike`: two checks answer the same, or both fail.
* `Walk.content`: where a walk ends, without its location.

## Main results

* `Alike.bind`, `Alike.mapM`: what follows an answer, and answers in order.
* `Profile.enumType_alike`, `Components.modelForm_alike`: checks of an enum and of a model.
* `Components.exists_walk_iff_of_way`: walking answers from any place on a way, or from none.
* `Components.walk_alike`, `Components.walk_pointer_alike`: walking from elsewhere, and from a
  pointer to what is walked.
-/

namespace ApiModel

/-! ### Checks that answer alike -/

/-- Two checks answer the same, or both fail. -/
def Alike {α : Type} (x y : Except ResolveError α) : Prop := x.toOption = y.toOption

namespace Alike

variable {α β : Type} {x y : Except ResolveError α}

@[refl] theorem refl (x : Except ResolveError α) : Alike x x := rfl

theorem error {e e' : ResolveError} : Alike (α := α) (.error e) (.error e') := rfl

/-- Two checks that answer alike fail together, or answer the same. -/
theorem fail_or_ok (h : Alike x y) :
    (∃ e e', x = .error e ∧ y = .error e') ∨ ∃ a, x = .ok a ∧ y = .ok a := by
  rcases x with e | a <;> rcases y with e' | b <;> simp_all [Alike, Except.toOption]

theorem ok_iff (h : Alike x y) (a : α) : x = .ok a ↔ y = .ok a := by
  rcases h.fail_or_ok with ⟨e, e', rfl, rfl⟩ | ⟨b, rfl, rfl⟩
  · exact ⟨nofun, nofun⟩
  · exact .rfl

theorem bind {f g : α → Except ResolveError β} (hx : Alike x y) (hf : ∀ a, Alike (f a) (g a)) :
    Alike (x >>= f) (y >>= g) := by
  rcases hx.fail_or_ok with ⟨e, e', rfl, rfl⟩ | ⟨a, rfl, rfl⟩
  · exact .error
  · exact hf a

theorem map (f : α → β) (hx : Alike x y) : Alike (x.map f) (y.map f) := by
  rcases hx.fail_or_ok with ⟨e, e', rfl, rfl⟩ | ⟨a, rfl, rfl⟩
  · exact .error
  · exact .refl _

theorem mapM {f g : α → Except ResolveError β} (h : ∀ a, Alike (f a) (g a)) (l : List α) :
    Alike (l.mapM f) (l.mapM g) := by
  induction l with
  | nil => exact .refl _
  | cons a l ih =>
    rw [List.mapM_cons, List.mapM_cons]
    exact (h a).bind fun b => ih.bind fun bs => .refl _

end Alike

/-! ### Enums -/

namespace Profile

variable (p : Profile) (location location' : String)

theorem primitive_alike (type : SchemaType) (format : Option String) :
    Alike (p.primitive type format location) (p.primitive type format location') := by
  unfold primitive
  split
  · exact .refl _
  · exact .error

theorem memberTypeName_alike (s : Schema) :
    Alike (p.memberTypeName s location) (p.memberTypeName s location') := by
  unfold memberTypeName
  split
  · split
    · exact (p.primitive_alike location location' _ _).map _
    · exact .refl _
  · exact .refl _

theorem member_alike (typeName : Option String) (entry : Json.Value × String) :
    Alike (p.member typeName location entry) (p.member typeName location' entry) := by
  unfold member
  split
  · exact .refl _
  · exact .error

theorem enumType_alike (flags : Flags) (s : Schema) :
    Alike (p.enumType flags s location) (p.enumType flags s location') := by
  unfold enumType
  refine (p.memberTypeName_alike location location' s).bind fun typeName => ?_
  exact (Alike.mapM (p.member_alike location location' typeName) _).bind fun members => .refl _

end Profile

/-! ### Models -/

/-- Two lists of schemas to merge are the same, and both stop or neither does. -/
def Flattened.Alike (a b : Flattened) : Prop :=
  a.schemas = b.schemas ∧ a.stop.isSome = b.stop.isSome

theorem Flattened.Alike.append {a b a' b' : Flattened} (ha : a.Alike b) (ha' : a'.Alike b') :
    (a.append a').Alike (b.append b') := by
  unfold Flattened.append
  rw [← ha.2]
  split
  · exact ha
  · exact ⟨congrArg₂ (· ++ ·) ha.1 ha'.1, ha'.2⟩

theorem Merged.addAll_alike (location location' : String) (m : Merged) (schemas : List Schema) :
    ApiModel.Alike (m.addAll location schemas) (m.addAll location' schemas) := by
  induction schemas generalizing m with
  | nil => exact .refl _
  | cons s rest ih =>
    unfold addAll
    split
    · exact .error
    · exact ih _

namespace Components

variable (c : Components) (location location' : String)

theorem checkAncestors_alike (chain : Chain) (pointer : String) :
    Alike (c.checkAncestors location chain pointer)
      (c.checkAncestors location' chain pointer) := by
  fun_induction c.checkAncestors location chain pointer with
  | case1 chain pointer e hname =>
    rw [checkAncestors_eq, hname]
  | case2 chain pointer name hname hnone =>
    rw [checkAncestors_eq, hname]
    simp only [hnone]
    rfl
  | case3 chain pointer name hname ancestor hfound hmem =>
    rw [checkAncestors_eq, hname]
    simp only [hfound, if_pos hmem]
    exact .error
  | case4 chain pointer name hname ancestor hfound hfresh hlast =>
    rw [checkAncestors_eq, hname]
    simp only [hfound, if_neg hfresh, hlast]
    rfl
  | case5 chain pointer name hname ancestor hfound hfresh next hnext ih =>
    rw [checkAncestors_eq c location', hname]
    simp only [hfound, if_neg hfresh, hnext]
    exact ih

theorem parentOf_alike (origin : String) (s : Schema) :
    Alike (c.parentOf origin s location) (c.parentOf origin s location') := by
  unfold parentOf
  split
  · exact .refl _
  · refine (Alike.refl _).bind fun target => ?_
    dsimp only
    split
    · exact (c.checkAncestors_alike location location' _ _).bind fun _ => .refl _
    · exact .refl _

theorem flattenAll_alike {chain : Chain} {branches : List SchemaNode}
    (h : ∀ b ∈ branches, (c.flatten location chain b).Alike (c.flatten location' chain b)) :
    (c.flattenAll location chain branches).Alike (c.flattenAll location' chain branches) := by
  induction branches with
  | nil =>
    rw [flattenAll, flattenAll]
    exact ⟨rfl, rfl⟩
  | cons b rest ih =>
    obtain ⟨hb, hrest⟩ := List.forall_mem_cons.mp h
    rw [flattenAll, flattenAll]
    exact hb.append (ih hrest)

theorem flatten_alike (chain : Chain) (node : SchemaNode) :
    (c.flatten location chain node).Alike (c.flatten location' chain node) := by
  induction chain, node using c.induction with
  | ref chain pointer ih =>
    rw [flatten_ref, flatten_ref]
    split
    · exact ⟨rfl, rfl⟩
    next name _ =>
    split
    · exact ⟨rfl, rfl⟩
    next target hfound =>
    split
    · exact ⟨rfl, rfl⟩
    next hfresh => exact ih name target hfound hfresh
  | inline chain s ih =>
    rw [flatten_inline, flatten_inline]
    refine .append (c.flattenAll_alike location location' fun b hb => ih b ?_) ⟨rfl, rfl⟩
    exact SchemaBody.mem_parts.mpr (.inr (.inr (.inr (.inl hb))))

theorem merge_alike (s : Schema) : Alike (c.merge location s) (c.merge location' s) := by
  obtain ⟨hschemas, hstop⟩ := c.flatten_alike location location' .empty (.inline s)
  unfold merge
  dsimp only
  rw [hschemas]
  refine (Merged.addAll_alike location location' _ _).bind fun merged => ?_
  split <;> split <;> simp_all [Alike, Except.toOption]

theorem composedForm_alike (origin : String) (s : Schema) :
    Alike (c.composedForm origin location s) (c.composedForm origin location' s) := by
  unfold composedForm
  split
  · exact .refl _
  · refine (c.parentOf_alike location location' origin s).bind fun parent => ?_
    split
    · exact .refl _
    · exact (c.merge_alike location location' s).bind fun merged => .refl _

theorem modelForm_alike (origin : String) (s : Schema) :
    Alike (c.modelForm origin location s) (c.modelForm origin location' s) := by
  unfold modelForm
  split
  · exact .refl _
  split
  · exact .refl _
  split
  · exact c.composedForm_alike location location' origin s
  · exact .refl _

end Components

/-! ### Walks -/

/-- Where a walk ends: the leaf, and the containers around it. -/
def Walk.content (w : Walk) : List Layer × Leaf := (w.layers, w.leaf)

/-- A walk to an element or a value that answers, with the container around it. -/
theorem Walk.exists_of_container {layer : ElementRule → Layer} {way : Except ResolveError Walk}
    {target : Except ResolveError Schema} {w : Walk}
    (h : (do
      let w ← way
      let s ← target
      return { w with layers := layer (.ofTarget s) :: w.layers } : Except ResolveError Walk) =
      .ok w) :
    ∃ w₁ s, way = .ok w₁ ∧ target = .ok s ∧
      w.content = (layer (.ofTarget s) :: w₁.layers, w₁.leaf) := by
  rcases way with e | w₁
  · cases h
  rcases target with e | s <;> cases h
  exact ⟨w₁, s, rfl, rfl, rfl⟩

namespace Components

variable {c : Components} {a b : Place} {n : Nat} {names : List String} {chain chain' : Chain}
  {location location' : String} {node : SchemaNode} {w w' : Walk}

/-- Walks from one position end at one leaf, inside the same containers. -/
theorem content_eq_of_walk (h : c.walk chain location node = .ok w)
    (h' : c.walk chain' location' node = .ok w') : w.content = w'.content := by
  induction chain, node using c.induction generalizing chain' location location' w w' with
  | ref chain pointer ih =>
    rw [walk_ref] at h h'
    split at h
    · cases h
    next name hname =>
    simp only [hname] at h'
    split at h
    · cases h
    next target hfound =>
    simp only [hfound] at h'
    split at h
    next hmodel =>
      rw [if_pos hmodel] at h'
      cases h
      cases h'
      rfl
    next hother =>
      rw [if_neg hother] at h'
      split at h
      · cases h
      next hfresh =>
        split at h'
        · cases h'
        · exact ih name target hfound hfresh h h'
  | inline chain s ih =>
    rw [walk_inline] at h h'
    have hparts := s.parts_form_subset
    rcases hform : s.form with _ | _ | branch | _ | _ | _ | (_ | items) | values | _ | _ | _ <;>
      rw [hform] at h h' hparts
    case lone => exact ih branch (hparts (List.mem_singleton.mpr rfl)) h h'
    case array.some | map =>
      obtain ⟨w₁, target, hw, htarget, hcontent⟩ := Walk.exists_of_container h
      obtain ⟨w₂, target', hw', htarget', hcontent'⟩ := Walk.exists_of_container h'
      obtain rfl := Except.ok.inj (htarget.symm.trans htarget')
      have hinside := ih _ (hparts (List.mem_singleton.mpr rfl)) hw hw'
      rw [hcontent, hcontent', (Prod.mk.inj hinside).1, (Prod.mk.inj hinside).2]
    all_goals
      cases h
      cases h'
      rfl

/-- Walking answers from every place on a way, or from none. -/
theorem exists_walk_iff_of_way (h : c.Way a n names b) :
    (∃ w, c.walk .empty a.location a.node = .ok w) ↔
      ∃ w, c.walk .empty b.location b.node = .ok w := by
  rw [exists_walk_iff, exists_walk_iff]
  constructor
  · rintro ⟨m, names', z, leaf, hway, hz, hleaf⟩
    obtain ⟨k, rest, -, -, hrest⟩ := hway.exists_rest hz h
    exact ⟨k, rest, z, leaf, hrest, hz, hleaf⟩
  · rintro ⟨m, rest, z, leaf, hrest, hz, hleaf⟩
    exact ⟨n + m, names ++ rest, z, leaf, h.trans hrest, hz, hleaf⟩

/-- Two walks with an empty chain answer alike if both positions are walked, or neither, and any
walks from there end at one leaf. -/
theorem alike_content_of_exists_iff {location' : String} {node' : SchemaNode}
    (hexists : (∃ w, c.walk .empty location node = .ok w) ↔
      ∃ w, c.walk .empty location' node' = .ok w)
    (hcontent : ∀ w w', c.walk .empty location node = .ok w →
      c.walk .empty location' node' = .ok w' → w.content = w'.content) :
    Alike ((c.walk .empty location node).map Walk.content)
      ((c.walk .empty location' node').map Walk.content) := by
  rcases hw : c.walk .empty location node with e | w <;>
    rcases hw' : c.walk .empty location' node' with e' | w' <;> rw [hw, hw'] at hexists
  · exact .error
  · obtain ⟨_, h⟩ := hexists.mpr ⟨w', rfl⟩
    cases h
  · obtain ⟨_, h⟩ := hexists.mp ⟨w, rfl⟩
    cases h
  · exact congrArg some (hcontent w w' hw hw')

/-- Walking from a position ends alike wherever it stands. -/
theorem walk_alike (c : Components) (location location' : String) (node : SchemaNode) :
    Alike ((c.walk .empty location node).map Walk.content)
      ((c.walk .empty location' node).map Walk.content) := by
  have hmono : ∀ location location', (∃ w, c.walk .empty location node = .ok w) →
      ∃ w, c.walk .empty location' node = .ok w := by
    intro location location'
    rw [exists_walk_iff, exists_walk_iff]
    rintro ⟨n, names, z, leaf, hway, hz, hleaf⟩
    obtain ⟨z', hway', hnode⟩ := hway.relocate (z := ⟨location', node⟩) rfl
    exact ⟨n, names, z', leaf, hway', hz.relocate hnode, hnode ▸ hleaf⟩
  exact alike_content_of_exists_iff ⟨hmono _ _, hmono _ _⟩ fun _ _ => content_eq_of_walk

/-- Through pointers that lead to a schema of its own there is a way, unless it is that of a
model. -/
theorem exists_way_of_endsIn {pointer name : String} {s : Schema}
    (hname : componentName "schemas" pointer = .ok name)
    (hends : EndsIn "schemas" SchemaNode.referable c.schemas n name s) (hs : s.isModel = false)
    (location : String) :
    ∃ k names location', c.Way ⟨location, .ref pointer⟩ k names ⟨location', .inline s⟩ := by
  induction hends generalizing pointer location with
  | @content name node s hfound hview =>
    cases node with
    | ref => cases hview
    | inline s' =>
      cases hview
      exact ⟨1, _, _, .step (.enter hname hfound hs) (.here _)⟩
  | @pointer n name next nextName node s hfound hview hnext _ ih =>
    cases node with
    | inline => cases hview
    | ref next' =>
      cases hview
      obtain ⟨k, names, location', hway⟩ := ih hnext hs (pointerTo "schemas" name)
      exact ⟨k + 1, _, location', .step (.enter hname hfound rfl) hway⟩

/-- Where a pointer leads to a schema of its own, other than that of a model, walking goes on from
there. -/
theorem exists_walk_of_endsIn {pointer name : String} {s : Schema}
    (hname : componentName "schemas" pointer = .ok name)
    (hends : EndsIn "schemas" SchemaNode.referable c.schemas n name s) (hs : s.isModel = false)
    (h : c.walk chain location (.ref pointer) = .ok w) :
    ∃ chain' location', c.walk chain' location' (.inline s) = .ok w := by
  induction hends generalizing pointer location chain with
  | @content name node s hfound hview =>
    cases node with
    | ref => cases hview
    | inline s' =>
      cases hview
      rw [walk_ref, hname] at h
      simp only [hfound, SchemaNode.isModel_inline, hs, Bool.false_eq_true, if_false] at h
      split at h
      · cases h
      · exact ⟨_, _, h⟩
  | @pointer n name next nextName node s hfound hview hnext _ ih =>
    cases node with
    | inline => cases hview
    | ref next' =>
      cases hview
      rw [walk_ref, hname] at h
      simp only [hfound, SchemaNode.isModel_ref, Bool.false_eq_true, if_false] at h
      split at h
      · cases h
      · exact ih hnext hs h

/-- Walking from a pointer ends as walking from the schema does to which it leads, unless that is
the schema of a model. -/
theorem walk_pointer_alike {pointer name : String} {s : Schema}
    (hname : componentName "schemas" pointer = .ok name)
    (hends : EndsIn "schemas" SchemaNode.referable c.schemas n name s) (hs : s.isModel = false)
    (location location' : String) :
    Alike ((c.walk .empty location (.ref pointer)).map Walk.content)
      ((c.walk .empty location' (.inline s)).map Walk.content) := by
  obtain ⟨k, names, stands, hway⟩ := exists_way_of_endsIn hname hends hs location
  refine Eq.trans ?_ (c.walk_alike stands location' (.inline s))
  refine alike_content_of_exists_iff (exists_walk_iff_of_way hway) fun w w' hw hw' => ?_
  obtain ⟨chain, location, hw⟩ := exists_walk_of_endsIn hname hends hs hw
  exact content_eq_of_walk hw hw'

end Components

end ApiModel
