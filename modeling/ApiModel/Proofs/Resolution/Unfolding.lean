import ApiModel.Proofs.Resolution.Merging

/-!
# The schemas to which branches lead

The branches of a schema unfold to a list of schemas: a pointer to what its component unfolds to,
and a schema to what its own branches unfold to, followed by the schema itself. A component is not
unfolded inside of itself, but may come up any number of times beside itself. Merging walks through
the branches in just this order and keeps the names of the components in which it is; it never
fails to end, for where branches do not unfold it stops with an error.

## Main definitions

* `Components.Unfolds`, `Components.UnfoldsAll`: what a position and what branches unfold to.

## Main results

* `Components.unfolds_iff`: what a position unfolds to is what it merges, if that comes to an end.
* `Components.merge_of_unfolds`: what branches that unfold are merged into.
* `Components.exists_error_of_merge`: branches that do not unfold are an error.
-/

namespace ApiModel

namespace Components

mutual

/-- A position unfolds to schemas in order, inside of components of some names. -/
inductive Unfolds (c : Components) : List String → SchemaNode → List Schema → Prop
  | ref {inside : List String} {pointer name : String} {target : SchemaNode}
      {schemas : List Schema} (hname : componentName "schemas" pointer = .ok name)
      (hfound : c.schemas.lookup name = some target) (houtside : name ∉ inside)
      (h : Unfolds c (inside ++ [name]) target schemas) : Unfolds c inside (.ref pointer) schemas
  | inline {inside : List String} {s : Schema} {schemas : List Schema}
      (h : UnfoldsAll c inside s.allOf schemas) : Unfolds c inside (.inline s) (schemas ++ [s])

/-- Branches unfold to schemas, one branch after the other. -/
inductive UnfoldsAll (c : Components) : List String → List SchemaNode → List Schema → Prop
  | nil {inside : List String} : UnfoldsAll c inside [] []
  | cons {inside : List String} {branch : SchemaNode} {rest : List SchemaNode}
      {schemas schemas' : List Schema} (h : Unfolds c inside branch schemas)
      (hrest : UnfoldsAll c inside rest schemas') :
      UnfoldsAll c inside (branch :: rest) (schemas ++ schemas')

end

end Components

/-- Lists of schemas that follow each other come to an end if both do. -/
theorem Flattened.append_eq_iff {a b : Flattened} {schemas : List Schema} :
    a.append b = { schemas } ↔ ∃ first second,
      a = { schemas := first } ∧ b = { schemas := second } ∧ schemas = first ++ second := by
  constructor
  · intro h
    obtain ⟨ha, hb⟩ := stop_of_append (congrArg Flattened.stop h)
    obtain ⟨first, stop⟩ := a
    obtain ⟨second, stop'⟩ := b
    obtain rfl : stop = none := ha
    obtain rfl : stop' = none := hb
    exact ⟨first, second, rfl, rfl, (congrArg Flattened.schemas h).symm⟩
  · rintro ⟨first, second, rfl, rfl, rfl⟩
    rfl

namespace Components

variable {c : Components} {location origin : String} {chain : Chain} {node : SchemaNode}
  {s : Schema} {schemas : List Schema}

theorem unfoldsAll_iff {branches : List SchemaNode}
    (ih : ∀ branch ∈ branches, ∀ schemas, c.Unfolds chain.names branch schemas ↔
      c.flatten location chain branch = { schemas }) (schemas : List Schema) :
    c.UnfoldsAll chain.names branches schemas ↔
      c.flattenAll location chain branches = { schemas } := by
  induction branches generalizing schemas with
  | nil =>
    rw [flattenAll]
    constructor
    · rintro ⟨⟩
      rfl
    · rintro ⟨⟩
      exact .nil
  | cons branch rest ihrest =>
    obtain ⟨hbranch, hrest⟩ := List.forall_mem_cons.mp ih
    rw [flattenAll, Flattened.append_eq_iff]
    constructor
    · intro h
      cases h with
      | cons hfirst hsecond =>
        exact ⟨_, _, (hbranch _).mp hfirst, (ihrest hrest _).mp hsecond, rfl⟩
    · rintro ⟨first, second, hfirst, hsecond, rfl⟩
      exact .cons ((hbranch _).mpr hfirst) ((ihrest hrest _).mpr hsecond)

/-- What a position unfolds to is what it merges, if that comes to an end. -/
theorem unfolds_iff (c : Components) (location : String) (chain : Chain) (node : SchemaNode)
    (schemas : List Schema) : c.Unfolds chain.names node schemas ↔
      c.flatten location chain node = { schemas } := by
  induction chain, node using c.induction generalizing schemas with
  | ref chain pointer ih =>
    rw [flatten_ref]
    constructor
    · intro h
      cases h with
      | ref hname hfound houtside h =>
        simp only [hname, hfound, if_neg houtside]
        exact (ih _ _ hfound houtside schemas).mp h
    · intro h
      split at h
      · cases h
      next name hname =>
      split at h
      · cases h
      next target hfound =>
      split at h
      · cases h
      next hfresh => exact .ref hname hfound hfresh ((ih name target hfound hfresh schemas).mpr h)
  | inline chain s ih =>
    have hall (schemas : List Schema) : c.UnfoldsAll chain.names s.allOf schemas ↔
        c.flattenAll location chain s.allOf = { schemas } :=
      unfoldsAll_iff (fun branch hbranch => ih branch
        (SchemaBody.mem_parts.mpr (.inr (.inr (.inr (.inl hbranch)))))) schemas
    rw [flatten_inline, Flattened.append_eq_iff]
    constructor
    · intro h
      cases h with
      | inline h => exact ⟨_, _, (hall _).mp h, rfl, rfl⟩
    · rintro ⟨first, second, hfirst, hsecond, rfl⟩
      cases hsecond
      exact .inline ((hall _).mpr hfirst)

/-- Branches that unfold are merged one after the other. -/
theorem merge_of_unfolds (h : c.Unfolds [] (.inline s) schemas) :
    c.merge location s = ({} : Merged).addAll location schemas := by
  rw [merge, (unfolds_iff c location .empty (.inline s) schemas).mp h]
  dsimp only
  rcases ({} : Merged).addAll location schemas with e | merged <;> rfl

/-- Branches that do not unfold are an error. -/
theorem exists_error_of_merge (location : String)
    (h : ¬∃ schemas, c.Unfolds [] (.inline s) schemas) : ∃ e, c.merge location s = .error e := by
  rcases hmerge : c.merge location s with e | merged
  · exact ⟨e, rfl⟩
  · obtain ⟨-, hstop⟩ := merge_eq_ok hmerge
    have hflat : c.flatten location .empty (.inline s) =
        { schemas := (c.flatten location .empty (.inline s)).schemas } := by
      rw [← hstop]
    exact absurd ⟨_, (unfolds_iff c location .empty (.inline s) _).mpr hflat⟩ h

/-- An all-of is merged unless it is left to a lone branch or extends a parent. -/
theorem composedForm_of_merge (hlone : ¬(s.allOf.length = 1 ∧ s.properties = []))
    (hparent : c.parentOf origin s location = .ok none) :
    c.composedForm origin location s = (c.merge location s).map Merged.form := by
  rw [composedForm]
  split
  next hallOf hnone => exact absurd ⟨by rw [hallOf]; rfl, hnone⟩ hlone
  · rw [hparent]
    rcases c.merge location s with e | merged <;> rfl

end Components

end ApiModel
