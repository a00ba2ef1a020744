import ApiModel.Proofs.Resolution.Acyclic
import ApiModel.Proofs.Resolution.Errors
import ApiModel.Proofs.Resolution.Steps

/-!
# What reports a cycle

Four parts of a resolver keep a chain of names and report a cycle when they meet a name again: they
follow pointers to components, walk to a leaf, merge the branches of an all-of, and check the
parents of a parent. Where a contract has no cycle the first three report none.

The check of the parents starts with the name of the model that extends the first of them, which
need not be that of a schema. Without cycles it reports one only when a parent has this name.

## Main definitions

* `Uncircular`: a check that reports no cycle.
* `Local`: a check that reports only what is wrong at a single place.

## Main results

* `follow_uncircular`, `Components.walk_uncircular`, `Components.merge_uncircular`: what reports no
  cycle where there is none.
* `Components.circular_of_parentOf`: what the check of the parents may still report.
-/

namespace ApiModel

/-! ### Checks that report no cycle -/

/-- Whether an error reports a cycle. -/
def ResolveError.isCircular : ResolveError → Bool
  | circular _ _ => true
  | invalidPointer _ | missingTarget _ | malformed _ _ | unmapped _ _ _ _ | endless _ => false

/-- A check that fails, if it does, for another reason than a cycle. -/
abbrev Uncircular {α : Type} (x : Except ResolveError α) : Prop :=
  FailsOnly (fun e => e.isCircular = false) x

/-- Whether an error is about a single place of the contract. -/
def ResolveError.isLocal : ResolveError → Bool
  | invalidPointer _ | missingTarget _ | malformed _ _ | unmapped _ _ _ _ => true
  | circular _ _ | endless _ => false

/-- A check that fails, if it does, because of a single place. -/
abbrev Local {α : Type} (x : Except ResolveError α) : Prop :=
  FailsOnly (fun e => e.isLocal = true) x

theorem Local.uncircular {α : Type} {x : Except ResolveError α} (hx : Local x) : Uncircular x :=
  hx.weaken fun e he => by
    cases e with
    | circular => cases he
    | _ => rfl

theorem componentName_local (kind pointer : String) : Local (componentName kind pointer) := by
  unfold componentName
  split
  · split
    · exact .error rfl
    · exact .ok _
  · exact .error rfl

theorem componentName_uncircular (kind pointer : String) :
    Uncircular (componentName kind pointer) := (componentName_local kind pointer).uncircular

/-! ### Following pointers -/

/-- Following pointers reports no cycle where there is none. -/
theorem follow_uncircular {α β : Type} {kind : String} {view : β → Referable α}
    {pointers : β → List String} {entries : List (String × β)} {location : Option String}
    {chain : Chain} {pointer : String}
    (hview : ∀ b next, view b = .ref next → next ∈ pointers b)
    (hc : NoCycle kind pointers entries)
    (hchain : chain.Leads kind pointers entries [pointer]) :
    Uncircular (follow kind view entries location chain pointer) := by
  fun_induction follow kind view entries location chain pointer with
  | case1 chain pointer e hname => exact (componentName_uncircular kind pointer).passOn hname
  | case2 chain pointer name hname hmem =>
    exact absurd hmem (hchain.notMem hc (List.mem_singleton.mpr rfl) hname)
  | case3 => exact .error rfl
  | case4 => exact .ok _
  | case5 chain pointer name hname _ b hfound next hnext ih =>
    have hentered := hchain.enter (List.mem_singleton.mpr rfl) hname (mem_of_lookup_eq_some hfound)
    refine ih (hentered.mono fun pointer' hpointer' => ?_)
    obtain rfl := List.mem_singleton.mp hpointer'
    exact hview b _ hnext

namespace Components

variable {c : Components}

theorem schema_uncircular (name : String) : Uncircular (c.schema name) := by
  unfold schema
  split
  · exact .ok _
  · exact .error rfl

theorem schemaAt_uncircular (pointer : String) : Uncircular (c.schemaAt pointer) :=
  (componentName_uncircular _ _).bind fun name _ =>
    (schema_uncircular name).bind fun _ _ => .ok _

theorem target_uncircular (hc : c.Acyclic) (node : SchemaNode) : Uncircular (c.target node) := by
  cases node with
  | inline s => exact .ok s
  | ref pointer =>
    refine follow_uncircular (fun b next hnext => ?_) hc.schemas (.empty _)
    cases b with
    | ref pointer' =>
      obtain rfl : pointer' = next := Referable.ref.inj hnext
      exact List.mem_singleton.mpr rfl
    | inline s => cases hnext

theorem mem_pointers_of_id {α : Type} (b : Referable α) (next : String) (h : id b = .ref next) :
    next ∈ b.pointers := by
  obtain rfl : b = .ref next := h
  exact List.mem_singleton.mpr rfl

theorem parameter_uncircular (hc : c.Acyclic) (pointer : String) :
    Uncircular (c.parameter pointer) :=
  follow_uncircular mem_pointers_of_id hc.parameters (.empty _)

theorem requestBody_uncircular (hc : c.Acyclic) (pointer : String) :
    Uncircular (c.requestBody pointer) :=
  follow_uncircular mem_pointers_of_id hc.requestBodies (.empty _)

theorem response_uncircular (hc : c.Acyclic) (pointer : String) :
    Uncircular (c.response pointer) :=
  follow_uncircular mem_pointers_of_id hc.responses (.empty _)

/-! ### Walking to a leaf -/

/-- Every name on a chain leads to the schemas that a position names. -/
abbrev LeadsTo (c : Components) (chain : Chain) (node : SchemaNode) : Prop :=
  chain.Leads "schemas" SchemaNode.pointers c.schemas node.pointers

theorem leadsTo_empty (c : Components) (node : SchemaNode) : c.LeadsTo .empty node := .empty _

/-- Walking to a leaf reports no cycle where there is none. -/
theorem walk_uncircular (hc : c.Acyclic) {chain : Chain} {node : SchemaNode}
    (hchain : c.LeadsTo chain node) (location : String) :
    Uncircular (c.walk chain location node) := by
  induction chain, node using c.induction generalizing location with
  | ref chain pointer ih =>
    rw [walk_ref]
    rcases hname : componentName "schemas" pointer with e | name
    · exact (componentName_uncircular _ _).passOn hname
    · have hpointer : pointer ∈ (SchemaNode.ref pointer).pointers := List.mem_singleton.mpr rfl
      have hfresh : name ∉ chain.names := hchain.notMem hc.schemas hpointer hname
      dsimp only
      rcases hfound : c.schemas.lookup name with _ | target
      · exact .error rfl
      dsimp only
      split
      · exact .ok _
      · exact ih name target hfound hfresh
          (hchain.enter hpointer hname (mem_of_lookup_eq_some hfound)) _
  | inline chain s ih =>
    have below (part : SchemaNode) (h : part ∈ s.form.parts) (location : String) :
        Uncircular (c.walk chain location part) :=
      have hpart := s.parts_form_subset h
      ih part hpart (hchain.mono (SchemaNode.pointers_subset_of_mem_parts hpart)) location
    rw [walk_inline]
    generalize s.form = form at below
    rcases form with _ | _ | branch | _ | _ | _ | (_ | items) | values | _ | _ | _
    any_goals exact .ok _
    · exact below branch (List.mem_singleton.mpr rfl) _
    · exact (below items (List.mem_singleton.mpr rfl) _).bind fun w _ =>
        (target_uncircular hc items).bind fun target _ => .ok _
    · exact (below values (List.mem_singleton.mpr rfl) _).bind fun w _ =>
        (target_uncircular hc values).bind fun target _ => .ok _

/-! ### Merging branches -/

theorem stop_append {a b : Flattened} {e : ResolveError} (h : e ∈ (a.append b).stop) :
    e ∈ a.stop ∨ e ∈ b.stop := by
  unfold Flattened.append at h
  split at h
  · exact .inl h
  · exact .inr h

theorem flattenAll_uncircular {chain : Chain} {location : String} {branches : List SchemaNode}
    (h : ∀ b ∈ branches, ∀ e ∈ (c.flatten location chain b).stop, e.isCircular = false) :
    ∀ e ∈ (c.flattenAll location chain branches).stop, e.isCircular = false := by
  induction branches with
  | nil =>
    rw [flattenAll]
    rintro _ ⟨⟩
  | cons b rest ih =>
    intro e he
    rw [flattenAll] at he
    rcases stop_append he with he | he
    · exact h b List.mem_cons_self e he
    · exact ih (fun b' hb' => h b' (List.mem_cons_of_mem b hb')) e he

/-- The branches of an all-of are merged without a report of a cycle where there is none. -/
theorem flatten_uncircular (hc : c.Acyclic) {chain : Chain} {node : SchemaNode}
    (hchain : c.LeadsTo chain node) (location : String) :
    ∀ e ∈ (c.flatten location chain node).stop, e.isCircular = false := by
  induction chain, node using c.induction with
  | ref chain pointer ih =>
    rw [flatten_ref]
    rcases hname : componentName "schemas" pointer with e | name
    · rintro _ ⟨⟩
      exact componentName_uncircular _ _ e hname
    · have hpointer : pointer ∈ (SchemaNode.ref pointer).pointers := List.mem_singleton.mpr rfl
      have hfresh : name ∉ chain.names := hchain.notMem hc.schemas hpointer hname
      dsimp only
      rcases hfound : c.schemas.lookup name with _ | target
      · rintro _ ⟨⟩
        rfl
      dsimp only
      rw [if_neg hfresh]
      exact ih name target hfound hfresh
        (hchain.enter hpointer hname (mem_of_lookup_eq_some hfound))
  | inline chain s ih =>
    rw [flatten_inline]
    intro e he
    rcases stop_append he with he | he
    · refine flattenAll_uncircular (fun b hb => ?_) e he
      have hpart : b ∈ s.parts := SchemaBody.mem_parts.mpr (.inr (.inr (.inr (.inl hb))))
      exact ih b hpart (hchain.mono (SchemaNode.pointers_subset_of_mem_parts hpart))
    · cases he

end Components

namespace Merged

theorem addAll_uncircular (location : String) (m : Merged) (schemas : List Schema) :
    Uncircular (m.addAll location schemas) := by
  induction schemas generalizing m with
  | nil => exact .ok m
  | cons s rest ih =>
    rw [addAll]
    split
    · exact .error rfl
    · exact ih (m.add s)

end Merged

namespace Components

variable {c : Components}

theorem merge_uncircular (hc : c.Acyclic) (location : String) (s : Schema) :
    Uncircular (c.merge location s) := by
  refine (Merged.addAll_uncircular location _ _).bind fun merged _ => ?_
  have hstop := flatten_uncircular hc (c.leadsTo_empty (.inline s)) location
  split
  next e he => exact .error (hstop e he)
  next => exact .ok merged

/-! ### Checking the parents -/

theorem ref_mem_allOf_of_extensionPointer {s : Schema} {pointer : String}
    (h : extensionPointer s = some pointer) : SchemaNode.ref pointer ∈ s.allOf := by
  unfold extensionPointer at h
  split at h
  next pointer' hpointers =>
    split at h <;> cases h
    have hmem : pointer ∈ s.allOf.filterMap SchemaNode.pointer? :=
      hpointers ▸ List.mem_singleton.mpr rfl
    obtain ⟨b, hb, hpointer⟩ := List.mem_filterMap.mp hmem
    cases b with
    | ref pointer' =>
      obtain rfl : pointer' = pointer := Option.some.inj hpointer
      exact hb
    | inline s => cases hpointer
  next => cases h

/-- The pointer to a parent is one of the pointers at a position. -/
theorem mem_pointers_of_extensionPointer {node : SchemaNode} {pointer : String}
    (h : node.schema?.bind extensionPointer = some pointer) : pointer ∈ node.pointers := by
  cases node with
  | ref => cases h
  | inline s =>
    have hpart : SchemaNode.ref pointer ∈ s.parts := SchemaBody.mem_parts.mpr
      (.inr (.inr (.inr (.inl (ref_mem_allOf_of_extensionPointer h)))))
    exact SchemaNode.pointers_subset_of_mem_parts hpart (List.mem_singleton.mpr rfl)

/-- Without cycles the check of the parents reports one only when it meets the name with which it
starts, to which the first parent then leads. -/
theorem circular_of_checkAncestors (hc : c.Acyclic) {location origin pointer : String}
    {path : List String} {e : ResolveError} (hpath : c.LeadsTo ⟨path⟩ (.ref pointer))
    (h : c.checkAncestors location ⟨origin :: path⟩ pointer = .error e)
    (he : e.isCircular = true) :
    (∃ name, componentName "schemas" pointer = .ok name ∧
      Relation.ReflTransGen (PointsTo "schemas" SchemaNode.pointers c.schemas) name origin) ∧
    origin ∈ c.schemaNames ∧
    ∃ between, e = .circular location (origin :: between ++ [origin]) := by
  generalize hchain : (⟨origin :: path⟩ : Chain) = chain at h
  have hpointer {pointer : String} : pointer ∈ (SchemaNode.ref pointer).pointers :=
    List.mem_singleton.mpr rfl
  fun_induction c.checkAncestors location chain pointer generalizing path with
  | case1 chain pointer e' hname =>
    obtain rfl := Except.error.inj h
    exact absurd he (by rw [componentName_uncircular _ _ _ hname]; decide)
  | case2 =>
    obtain rfl := Except.error.inj h
    cases he
  | case3 chain pointer name hname ancestor hfound hmem =>
    subst hchain
    obtain rfl := Except.error.inj h
    have hfresh : name ∉ path := hpath.notMem hc.schemas hpointer hname
    obtain rfl : name = origin := (List.mem_cons.mp hmem).resolve_right hfresh
    exact ⟨⟨name, hname, .refl⟩, mem_keys_of_lookup_eq_some hfound, path, rfl⟩
  | case4 => cases h
  | case5 chain pointer name hname ancestor hfound hmem next hnext ih =>
    subst hchain
    have hentry := mem_of_lookup_eq_some hfound
    have hnextPointer := mem_pointers_of_extensionPointer hnext
    have hpath' : c.LeadsTo ⟨path ++ [name]⟩ (.ref next) :=
      (hpath.enter hpointer hname hentry).mono fun pointer' hpointer' => by
        obtain rfl := List.mem_singleton.mp hpointer'
        exact hnextPointer
    obtain ⟨⟨name', hname', hreaches⟩, hrest⟩ := ih hpath' rfl h
    have hstep : PointsTo "schemas" SchemaNode.pointers c.schemas name name' :=
      ⟨ancestor, hentry, next, hnextPointer, hname'⟩
    exact ⟨⟨name, hname, hreaches.head hstep⟩, hrest⟩

/-- Without cycles the search for a parent reports one only when the check of the parents meets the
name of the model, which is then the name of a schema, but not of this one. -/
theorem circular_of_parentOf (hc : c.Acyclic) {origin location : String} {s : Schema}
    {e : ResolveError} (h : c.parentOf origin s location = .error e)
    (he : e.isCircular = true) :
    origin ∈ c.schemaNames ∧ (origin, .inline s) ∉ c.schemas ∧
      ∃ between, e = .circular location (origin :: between ++ [origin]) := by
  rw [parentOf] at h
  split at h
  · cases h
  next pointer hpointer =>
    have hcheck : c.checkAncestors location ⟨[origin]⟩ pointer = .error e := by
      simp only [bind, Except.bind, pure, Except.pure] at h
      split at h
      next e' hparent =>
        obtain rfl := Except.error.inj h
        exact absurd he (by rw [schemaAt_uncircular _ _ hparent]; decide)
      next parent hparent =>
        split at h
        · split at h
          next e' hcheck =>
            obtain rfl := Except.error.inj h
            exact hcheck
          next => cases h
        · cases h
    have hpath : c.LeadsTo ⟨[]⟩ (.ref pointer) := c.leadsTo_empty _
    obtain ⟨⟨name, hname, hreaches⟩, horigin, hchain⟩ :=
      circular_of_checkAncestors hc hpath hcheck he
    refine ⟨horigin, fun hmem => hc.schemas origin ?_, hchain⟩
    have hstep : PointsTo "schemas" SchemaNode.pointers c.schemas origin name :=
      ⟨.inline s, hmem, pointer, mem_pointers_of_extensionPointer hpointer, hname⟩
    exact .head' hstep hreaches

end Components

end ApiModel
