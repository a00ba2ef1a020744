import ApiModel.Proofs.Resolution.Following

/-!
# What comes of a chain of pointers

A pointer is well-formed when it is the one to some name of its section. From a pointer on, a chain
passes through the components that are pointers in turn. It comes to content, to a malformed pointer
or to a missing component, and then it has passed through no name twice: from the second time on as
many names would follow as from the first one. Or it comes to a name that it has passed. Following
pointers answers exactly this.

Of a section every name on the way is an entry, and none comes twice before the chain is left. So
one look-up more than there are entries is enough, whether a name is compared with those before it
is looked up or after that.

## Main definitions

* `PointsAt`: a pointer is that to a name of a section.
* `Passes`, `Halts`: where a chain comes to, and through which names; it goes no further.
* `ComesOf`: what comes of a chain.
* `followWithin`: following with a limited number of look-ups.

## Main results

* `componentName_eq_ok_iff`: the name in a pointer.
* `Passes.nodup`: a chain that goes no further has passed through no name twice.
* `follow_eq_iff`: following answers what comes of the chain.
* `followWithin_eq`: how many look-ups are enough.
* `Components.followsChains`: all look-ups in a contract follow chains to their end.
-/

namespace ApiModel

/-! ### Well-formed pointers -/

/-- A pointer is that to a name of a section. The name is not empty and holds no slash. -/
structure PointsAt (kind pointer name : String) : Prop where
  pointer_eq : pointer = "#/components/" ++ kind ++ "/" ++ name
  ne_empty : name ≠ ""
  no_slash : '/' ∉ name.toList

theorem dropLeading_eq_some_iff {start text rest : String} :
    dropLeading start text = some rest ↔ text = start ++ rest := by
  unfold dropLeading
  rw [← String.toList_inj, String.toList_append]
  split
  next h =>
    obtain ⟨after, hafter⟩ := List.isPrefixOf_iff_prefix.mp h
    rw [← hafter, List.drop_left, Option.some.injEq, List.append_cancel_left_eq,
      ← String.toList_inj, String.toList_ofList]
  next h =>
    refine ⟨nofun, fun heq => absurd ?_ h⟩
    rw [List.isPrefixOf_iff_prefix, heq]
    exact List.prefix_append _ _

/-- The name in a pointer is the one to which it points. -/
theorem componentName_eq_ok_iff {kind pointer name : String} :
    componentName kind pointer = .ok name ↔ PointsAt kind pointer name := by
  have hpointer (name : String) : pointer = pointerTo kind "" ++ name ↔
      pointer = "#/components/" ++ kind ++ "/" ++ name := by
    simp only [pointerTo, String.append_empty]
  have hname (name : String) : (name.isEmpty || name.toList.contains '/') = false ↔
      name ≠ "" ∧ '/' ∉ name.toList := by
    simp
  unfold componentName
  constructor
  · intro h
    split at h
    next rest hrest =>
      split at h
      · cases h
      next hrest' =>
        cases h
        obtain ⟨hne, hslash⟩ := (hname name).mp (by simpa using hrest')
        exact ⟨(hpointer name).mp (dropLeading_eq_some_iff.mp hrest), hne, hslash⟩
    next => cases h
  · rintro ⟨heq, hne, hslash⟩
    rw [dropLeading_eq_some_iff.mpr ((hpointer name).mpr heq)]
    dsimp only
    rw [(hname name).mpr ⟨hne, hslash⟩]
    rfl

theorem componentName_eq_error_iff {kind pointer : String} {e : ResolveError} :
    componentName kind pointer = .error e ↔
      (∀ name, ¬PointsAt kind pointer name) ∧ e = .invalidPointer pointer := by
  have herror (e : ResolveError) (h : componentName kind pointer = .error e) :
      e = .invalidPointer pointer := by
    unfold componentName at h
    split at h
    · split at h <;> cases h
      rfl
    · cases h
      rfl
  constructor
  · intro h
    refine ⟨fun name hname => ?_, herror e h⟩
    cases h.symm.trans (componentName_eq_ok_iff.mpr hname)
  · rintro ⟨hnone, rfl⟩
    rcases h : componentName kind pointer with e | name
    · rw [herror e h]
    · exact absurd (componentName_eq_ok_iff.mp h) (hnone name)

theorem PointsAt.unique {kind pointer name name' : String} (h : PointsAt kind pointer name)
    (h' : PointsAt kind pointer name') : name = name' :=
  Except.ok.inj ((componentName_eq_ok_iff.mpr h).symm.trans (componentName_eq_ok_iff.mpr h'))

/-! ### Chains -/

section Chains

variable {α β : Type} {kind : String} {view : β → Referable α} {entries : List (String × β)}

/-- From a pointer a chain comes to another one. It passes through components that are pointers in
turn, whose names are listed in order. -/
inductive Passes (kind : String) (view : β → Referable α) (entries : List (String × β)) :
    String → List String → String → Prop
  | here (pointer : String) : Passes kind view entries pointer [] pointer
  | pass {pointer name next last : String} {b : β} {names : List String}
      (hname : PointsAt kind pointer name) (hfound : entries.lookup name = some b)
      (hview : view b = .ref next) (hrest : Passes kind view entries next names last) :
      Passes kind view entries pointer (name :: names) last

/-- A chain goes no further than a pointer. -/
def Halts (kind : String) (view : β → Referable α) (entries : List (String × β))
    (pointer : String) : Prop :=
  ∀ name b next, PointsAt kind pointer name → entries.lookup name = some b → view b ≠ .ref next

/-- What comes of a chain: the content to which it comes, the first of its pointers that is
malformed or whose component is missing, or the first name to which it comes for a second time,
behind all names through which it has passed. The cycle is reported at `location`, or else at the
pointer that closes it. -/
inductive ComesOf (kind : String) (view : β → Referable α) (entries : List (String × β))
    (location : Option String) (pointer : String) : Except ResolveError α → Prop
  | content {names : List String} {last name : String} {b : β} {a : α}
      (hpasses : Passes kind view entries pointer names last) (hname : PointsAt kind last name)
      (hfound : entries.lookup name = some b) (hview : view b = .inline a) :
      ComesOf kind view entries location pointer (.ok a)
  | malformed {names : List String} {last : String}
      (hpasses : Passes kind view entries pointer names last)
      (hnone : ∀ name, ¬PointsAt kind last name) :
      ComesOf kind view entries location pointer (.error (.invalidPointer last))
  | missing {names : List String} {last name : String}
      (hpasses : Passes kind view entries pointer names last) (hname : PointsAt kind last name)
      (hnone : entries.lookup name = none) :
      ComesOf kind view entries location pointer (.error (.missingTarget last))
  | repeated {names : List String} {last name : String}
      (hpasses : Passes kind view entries pointer names last) (hnodup : names.Nodup)
      (hname : PointsAt kind last name) (hmem : name ∈ names) :
      ComesOf kind view entries location pointer
        (.error (.circular (location.getD last) (names ++ [name])))

namespace Passes

variable {pointer next last last' name : String} {names names' : List String} {b : β}

/-- A chain goes on through one more component. -/
theorem snoc (h : Passes kind view entries pointer names last) (hname : PointsAt kind last name)
    (hfound : entries.lookup name = some b) (hview : view b = .ref next) :
    Passes kind view entries pointer (names ++ [name]) next := by
  induction h with
  | here => exact .pass hname hfound hview (.here next)
  | pass hname' hfound' hview' _ ih => exact .pass hname' hfound' hview' (ih hname)

/-- Chains from one pointer that go no further pass through the same names. -/
theorem unique (h : Passes kind view entries pointer names last)
    (hlast : Halts kind view entries last) (h' : Passes kind view entries pointer names' last')
    (hlast' : Halts kind view entries last') : names = names' := by
  induction h generalizing names' with
  | here =>
    cases h' with
    | here => rfl
    | pass hname hfound hview => exact absurd hview (hlast _ _ _ hname hfound)
  | pass hname hfound hview _ ih =>
    cases h' with
    | here => exact absurd hview (hlast' _ _ _ hname hfound)
    | pass hname' hfound' hview' hrest' =>
      obtain rfl := hname.unique hname'
      obtain rfl := Option.some.inj (hfound.symm.trans hfound')
      obtain rfl := Referable.ref.inj (hview.symm.trans hview')
      rw [ih hlast hrest']

/-- A name through which a chain passes is that of a pointer, from which fewer names are left. -/
theorem exists_of_mem (h : Passes kind view entries pointer names last) (hmem : name ∈ names) :
    ∃ b next rest, entries.lookup name = some b ∧ view b = .ref next ∧
      Passes kind view entries next rest last ∧ rest.length < names.length := by
  induction h with
  | here => cases hmem
  | pass _ hfound hview hrest ih =>
    rcases List.mem_cons.mp hmem with rfl | hmem
    · exact ⟨_, _, _, hfound, hview, hrest, Nat.lt_succ_self _⟩
    · obtain ⟨b, next, rest, hfound, hview, hrest, hless⟩ := ih hmem
      exact ⟨b, next, rest, hfound, hview, hrest, Nat.lt_succ_of_lt hless⟩

/-- A chain that goes no further has not passed through the name to which it comes. -/
theorem notMem (h : Passes kind view entries pointer names last)
    (hlast : Halts kind view entries last) (hname : PointsAt kind last name) : name ∉ names := by
  intro hmem
  obtain ⟨b, next, _, hfound, hview, -⟩ := h.exists_of_mem hmem
  exact hlast name b next hname hfound hview

/-- A chain that goes no further has passed through no name twice: as many names would be left after
the second time as after the first one. -/
theorem nodup (h : Passes kind view entries pointer names last)
    (hlast : Halts kind view entries last) : names.Nodup := by
  induction h with
  | here => exact List.nodup_nil
  | pass _ hfound hview hrest ih =>
    refine List.nodup_cons.mpr ⟨fun hmem => ?_, ih hlast⟩
    obtain ⟨b, next, rest, hfound', hview', hrest', hless⟩ := hrest.exists_of_mem hmem
    obtain rfl := Option.some.inj (hfound.symm.trans hfound')
    obtain rfl := Referable.ref.inj (hview.symm.trans hview')
    rw [hrest.unique hlast hrest' hlast] at hless
    exact Nat.lt_irrefl _ hless

/-- Following goes along a chain that passes through no name twice, nor through one on the chain of
names that are being expanded. -/
theorem follow_eq {location : Option String} (h : Passes kind view entries pointer names last)
    {chain : Chain} (hnodup : (chain.names ++ names).Nodup) :
    follow kind view entries location chain pointer =
      follow kind view entries location ⟨chain.names ++ names⟩ last := by
  induction h generalizing chain with
  | here => rw [List.append_nil]
  | @pass pointer name next last b names hname hfound hview hrest ih =>
    have hfresh : name ∉ chain.names := fun hmem =>
      (List.nodup_append.mp hnodup).2.2 name hmem name List.mem_cons_self rfl
    have hsplit : chain.names ++ name :: names = chain.closedBy name ++ names := by
      rw [Chain.closedBy, List.append_assoc, List.singleton_append]
    rw [hsplit] at hnodup ⊢
    rw [ApiModel.follow_eq, componentName_eq_ok_iff.mpr hname]
    simp only [if_neg hfresh, hfound, hview]
    exact ih hnodup

/-- Likewise from the start, to what goes no further. -/
theorem follow_eq_of_halts {location : Option String}
    (h : Passes kind view entries pointer names last) (hlast : Halts kind view entries last) :
    follow kind view entries location .empty pointer =
      follow kind view entries location ⟨names⟩ last :=
  h.follow_eq (h.nodup hlast)

end Passes

/-! ### Following to the end -/

variable {location : Option String} {pointer : String} {answer : Except ResolveError α}

/-- What comes of a chain is what following it answers. -/
theorem ComesOf.follow_eq (h : ComesOf kind view entries location pointer answer) :
    follow kind view entries location .empty pointer = answer := by
  cases h with
  | @content names last name b a hpasses hname hfound hview =>
    have hlast : Halts kind view entries last := by
      intro name' b' next hname' hfound' hview'
      obtain rfl := hname.unique hname'
      obtain rfl := Option.some.inj (hfound.symm.trans hfound')
      cases hview.symm.trans hview'
    rw [hpasses.follow_eq_of_halts hlast, ApiModel.follow_eq, componentName_eq_ok_iff.mpr hname]
    simp only [if_neg (hpasses.notMem hlast hname), hfound, hview]
  | @malformed names last hpasses hnone =>
    have hlast : Halts kind view entries last := fun name _ _ hname => absurd hname (hnone name)
    rw [hpasses.follow_eq_of_halts hlast, ApiModel.follow_eq,
      componentName_eq_error_iff.mpr ⟨hnone, rfl⟩]
  | @missing names last name hpasses hname hnone =>
    have hlast : Halts kind view entries last := by
      intro name' b' next hname' hfound'
      obtain rfl := hname.unique hname'
      cases hnone.symm.trans hfound'
    rw [hpasses.follow_eq_of_halts hlast, ApiModel.follow_eq, componentName_eq_ok_iff.mpr hname]
    simp only [if_neg (hpasses.notMem hlast hname), hnone]
  | @repeated names last name hpasses hnodup hname hmem =>
    have hchain : (Chain.empty.names ++ names).Nodup := hnodup
    rw [hpasses.follow_eq hchain, ApiModel.follow_eq, componentName_eq_ok_iff.mpr hname]
    exact if_pos hmem

/-- From any pointer of a chain that has passed through no name twice, following answers what comes
of the chain. -/
theorem Passes.comesOf_follow {start : String} {chain : Chain}
    (h : Passes kind view entries start chain.names pointer) (hnodup : chain.names.Nodup) :
    ComesOf kind view entries location start (follow kind view entries location chain pointer) := by
  fun_induction follow kind view entries location chain pointer with
  | case1 chain pointer e hname =>
    obtain ⟨hnone, rfl⟩ := componentName_eq_error_iff.mp hname
    exact .malformed h hnone
  | case2 chain pointer name hname hmem =>
    exact .repeated h hnodup (componentName_eq_ok_iff.mp hname) hmem
  | case3 chain pointer name hname _ hnone =>
    exact .missing h (componentName_eq_ok_iff.mp hname) hnone
  | case4 chain pointer name hname _ b hfound a hview =>
    exact .content h (componentName_eq_ok_iff.mp hname) hfound hview
  | case5 chain pointer name hname hfresh b hfound next hview ih =>
    refine ih (h.snoc (componentName_eq_ok_iff.mp hname) hfound hview) ?_
    rw [Chain.closedBy, ← List.concat_eq_append]
    exact hnodup.concat hfresh

/-- Following answers exactly what comes of the chain. -/
theorem follow_eq_iff : follow kind view entries location .empty pointer = answer ↔
    ComesOf kind view entries location pointer answer := by
  refine ⟨fun h => ?_, ComesOf.follow_eq⟩
  rw [← h]
  exact Passes.comesOf_follow (.here pointer) List.nodup_nil

/-! ### How many look-ups are enough -/

/-- The content to which a pointer leads, when only so many components may be looked up; nothing if
that is not enough. A name is compared with those on the chain before it is looked up if `early`
says so, and otherwise once it is found. -/
def followWithin (kind : String) (view : β → Referable α) (entries : List (String × β))
    (location : Option String) (early : Bool) (lookups : Nat) (chain : Chain) (pointer : String) :
    Option (Except ResolveError α) :=
  match componentName kind pointer with
  | .error e => some (.error e)
  | .ok name =>
    if early ∧ name ∈ chain.names then
      some (.error (.circular (location.getD pointer) (chain.closedBy name)))
    else
      match lookups with
      | 0 => none
      | lookups + 1 =>
        match entries.lookup name with
        | none => some (.error (.missingTarget pointer))
        | some b =>
          if name ∈ chain.names then
            some (.error (.circular (location.getD pointer) (chain.closedBy name)))
          else
            match view b with
            | .inline a => some (.ok a)
            | .ref next =>
              followWithin kind view entries location early lookups ⟨chain.closedBy name⟩ next

/-- Following takes no more look-ups than there are entries that are not on the chain, and one
more. -/
theorem followWithin_eq (early : Bool) {lookups : Nat} {chain : Chain}
    (hnodup : chain.names.Nodup) (hkeys : ∀ name ∈ chain.names, name ∈ entries.map Prod.fst)
    (henough : entries.length < chain.names.length + lookups) :
    followWithin kind view entries location early lookups chain pointer =
      some (follow kind view entries location chain pointer) := by
  induction lookups generalizing chain pointer with
  | zero =>
    have hlength := hnodup.length_le_of_subset hkeys
    rw [List.length_map] at hlength
    omega
  | succ lookups ih =>
    rw [followWithin, follow_eq]
    rcases componentName kind pointer with e | name
    · rfl
    dsimp only
    by_cases hmem : name ∈ chain.names
    · have hfound : entries.lookup name ≠ none := fun hnone =>
        lookup_eq_none_iff_notMem.mp hnone (hkeys name hmem)
      obtain ⟨b, hb⟩ := Option.ne_none_iff_exists'.mp hfound
      simp only [hmem, hb, and_true, if_true, ite_self]
    · simp only [hmem, and_false, if_false]
      rcases hfound : entries.lookup name with _ | b
      · rfl
      rcases hview : view b with next | a <;> simp only [hview]
      · refine ih ?_ ?_ ?_
        · rw [Chain.closedBy, ← List.concat_eq_append]
          exact hnodup.concat hmem
        · refine List.forall_mem_append.mpr ⟨hkeys, List.forall_mem_singleton.mpr ?_⟩
          exact mem_keys_of_lookup_eq_some hfound
        · simp only [Chain.closedBy, List.length_append, List.length_singleton]
          omega

end Chains

/-! ### Looking up in a contract -/

/-- A look-up follows the chains of a section to their end: one look-up more than the section has
entries is enough, and what it answers is what comes of the chain. A cycle is reported where
`location` says. -/
structure FollowsChains {α β : Type} (kind : String) (view : β → Referable α)
    (entries : List (String × β)) (location : String → Option String) (early : Bool)
    (look : String → Except ResolveError α) : Prop where
  within : ∀ pointer, followWithin kind view entries (location pointer) early
    (entries.length + 1) .empty pointer = some (look pointer)
  answers : ∀ pointer answer, look pointer = answer ↔
    ComesOf kind view entries (location pointer) pointer answer

theorem followsChains_follow {α β : Type} (kind : String) (view : β → Referable α)
    (entries : List (String × β)) (location : String → Option String) (early : Bool) :
    FollowsChains kind view entries location early fun pointer =>
      follow kind view entries (location pointer) .empty pointer where
  within _ :=
    followWithin_eq early List.nodup_nil (fun _ hmem => nomatch hmem)
      (Nat.lt_of_lt_of_le (Nat.lt_succ_self _) (Nat.le_add_left _ _))
  answers _ _ := follow_eq_iff

/-- Schemas, parameters, bodies and responses are looked up by following chains to their end. A
schema of its own is answered at once. A cycle of schemas is found when the name is looked up for a
second time, and is reported at the pointer that closes it; in the other sections it is found before
that, and is reported at the first pointer. The report names the chain in order. -/
theorem Components.followsChains (c : Components) :
    (∀ s, c.target (.inline s) = .ok s) ∧
    FollowsChains "schemas" SchemaNode.referable c.schemas (fun _ => none) false
      (fun pointer => c.target (.ref pointer)) ∧
    FollowsChains "parameters" id c.parameters some true c.parameter ∧
    FollowsChains "requestBodies" id c.requestBodies some true c.requestBody ∧
    FollowsChains "responses" id c.responses some true c.response ∧
    ∀ location names, (ResolveError.circular location names).message =
      "circular alias chain at " ++ location ++ ": " ++ " -> ".intercalate names :=
  ⟨fun _ => rfl, followsChains_follow _ _ _ _ _, followsChains_follow _ _ _ _ _,
    followsChains_follow _ _ _ _ _, followsChains_follow _ _ _ _ _, fun _ _ => rfl⟩

end ApiModel
