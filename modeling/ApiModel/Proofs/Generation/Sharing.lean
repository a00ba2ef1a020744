import ApiModel.Proofs.Generation.Adoption

/-!
# Taking the same models again

The registry shares a promoted model with the one that it holds under the name of the model, and
with no other. So a list of models that it takes twice in a row is shared the second time if none of
them got a new name the first time. A model that got one is again compared with the model that was
in its way, gets a further name, and is held twice.

## Main definitions

* `Model.IsHeldIn`: a model equals the one that is held under its name.
* `Registry.heldFor`: the model that is held under the name of a model, or else the model itself.

## Main results

* `Registry.models_adopt_eq_iff`: a list adds no models exactly when all of its models are held.
* `Registry.entries_adopt_of_fits`: what becomes of a list none of whose models gets a new name.
* `Registry.adopt_again`: when a list that is taken again is shared.
-/

namespace ApiModel

/-- A model equals the one that is held under its name. -/
def Model.IsHeldIn (entries : List (String × Model)) (m : Model) : Prop :=
  ∃ e, entries.lookup m.name.pascalCase = some e ∧ (e == m) = true

namespace Adoption

variable {reg : Registry} {p : Profile} {a : Adoption} {m : Model}

theorem known_start (reg : Registry) (names : Allocator) :
    Adoption.known reg { names } = reg.entries :=
  List.append_nil _

theorem added_adoptOne : a.added <+: (Registry.adoptOne p reg.entries a m).added := by
  rcases adoptOne_cases reg p a m with ⟨-, hstep⟩ | ⟨-, -, -, hstep⟩ | ⟨-, hstep⟩
  · rw [hstep]
    exact List.prefix_append _ _
  · simp only [hstep, List.prefix_rfl]
  · rw [hstep]
    exact List.prefix_append _ _

theorem added_foldl (ms : List Model) :
    a.added <+: (ms.foldl (Registry.adoptOne p reg.entries) a).added := by
  induction ms generalizing a with
  | nil => exact List.prefix_rfl
  | cons m ms ih => exact added_adoptOne.trans ih

/-- As long as there are no new names, a model that is held is shared. -/
theorem adoptOne_of_isHeldIn (hrenames : a.renames = []) (h : m.IsHeldIn (a.known reg)) :
    Registry.adoptOne p reg.entries a m = a := by
  obtain ⟨e, hlookup, heq⟩ := h
  rw [known] at hlookup
  simp only [Registry.adoptOne, hlookup, hrenames, Renames.model_nil, if_pos heq]

/-- As long as there are no new names, only models that are held add nothing. -/
theorem isHeldIn_of_added_adoptOne (hrenames : a.renames = [])
    (h : (Registry.adoptOne p reg.entries a m).added = a.added) : m.IsHeldIn (a.known reg) := by
  rcases adoptOne_cases reg p a m with ⟨-, hstep⟩ | ⟨e, hlookup, heq, -⟩ | ⟨-, hstep⟩
  · rw [hstep, List.append_right_eq_self] at h
    cases h
  · rw [hrenames, Renames.model_nil] at heq
    exact ⟨e, hlookup, heq⟩
  · rw [hstep, List.append_right_eq_self] at h
    cases h

theorem foldl_of_isHeldIn (hrenames : a.renames = []) {ms : List Model}
    (h : ∀ m ∈ ms, m.IsHeldIn (a.known reg)) :
    ms.foldl (Registry.adoptOne p reg.entries) a = a := by
  induction ms with
  | nil => rfl
  | cons m ms ih =>
    rw [List.foldl_cons, adoptOne_of_isHeldIn hrenames (h m List.mem_cons_self)]
    exact ih fun m' hm' => h m' (List.mem_cons_of_mem _ hm')

theorem isHeldIn_of_added_foldl (hrenames : a.renames = []) {ms : List Model}
    (h : (ms.foldl (Registry.adoptOne p reg.entries) a).added = a.added) :
    ∀ m ∈ ms, m.IsHeldIn (a.known reg) := by
  induction ms with
  | nil => exact fun _ hm => by cases hm
  | cons m ms ih =>
    -- What the first model adds stays, so it adds nothing, and the others start where it did.
    have hfirst : (Registry.adoptOne p reg.entries a m).added = a.added := by
      have hrest : (Registry.adoptOne p reg.entries a m).added <+:
          ((m :: ms).foldl (Registry.adoptOne p reg.entries) a).added := added_foldl ms
      rw [h] at hrest
      exact hrest.eq_of_length_le added_adoptOne.length_le
    have hheld := isHeldIn_of_added_adoptOne hrenames hfirst
    rw [List.foldl_cons, adoptOne_of_isHeldIn hrenames hheld] at h
    exact List.forall_mem_cons.mpr ⟨hheld, ih h⟩

end Adoption

namespace Registry

variable (reg : Registry) (p : Profile) (promoted : List Model)

/-! ### Lists that add nothing -/

theorem models_adopt : (reg.adopt p promoted).2.models =
    reg.models ++ (reg.adoption p promoted).added.map fun e =>
      (reg.adoption p promoted).renames.model p e.2 := by
  rw [models, models, entries_adopt, List.map_append, List.map_map]
  rfl

variable {reg p promoted}

/-- A list adds no models exactly when all of its models are held. -/
theorem models_adopt_eq_iff :
    (reg.adopt p promoted).2.models = reg.models ↔ ∀ m ∈ promoted, m.IsHeldIn reg.entries := by
  rw [models_adopt, List.append_right_eq_self, List.map_eq_nil_iff, adoption]
  constructor
  · intro h
    have hheld := Adoption.isHeldIn_of_added_foldl rfl h
    rwa [Adoption.known_start reg] at hheld
  · intro h
    rw [← Adoption.known_start reg] at h
    rw [Adoption.foldl_of_isHeldIn rfl h]

/-- Models that are held get no new names. -/
theorem adopt_fst_of_isHeldIn (h : ∀ m ∈ promoted, m.IsHeldIn reg.entries) :
    (reg.adopt p promoted).1 = [] := by
  rw [← Adoption.known_start reg] at h
  rw [adopt_fst, adoption, Adoption.foldl_of_isHeldIn rfl h]

/-! ### Lists without new names -/

variable (reg)

/-- What is held under the name of a model, if anything is, equals the model. -/
def Fits (m : Model) : Prop :=
  ∀ e, reg.entries.lookup m.name.pascalCase = some e → (e == m) = true

/-- The models of a list under whose names none are held. -/
def unheld (promoted : List Model) : List (String × Model) :=
  (promoted.filter fun m => (reg.entries.lookup m.name.pascalCase).isNone).map fun m =>
    (m.name.pascalCase, m)

/-- The model that is held under the name of a model, or else the model itself. -/
def heldFor (m : Model) : Model := (reg.entries.lookup m.name.pascalCase).getD m

variable {reg}

theorem unheld_append (ms ms' : List Model) :
    reg.unheld (ms ++ ms') = reg.unheld ms ++ reg.unheld ms' := by
  rw [unheld, List.filter_append, List.map_append]
  rfl

theorem keys_unheld_subset (ms : List Model) :
    (reg.unheld ms).map Prod.fst ⊆ ms.map fun m => m.name.pascalCase := by
  rw [unheld, List.map_map]
  exact List.map_subset _ (List.filter_subset_self _)

/-- Taking models of distinct names that fit adds those under whose names none are held. -/
theorem foldl_of_fits (names : Allocator)
    (hnodup : (promoted.map fun m => m.name.pascalCase).Nodup) (h : ∀ m ∈ promoted, reg.Fits m) :
    promoted.foldl (adoptOne p reg.entries) { names } =
      { names, added := reg.unheld promoted } := by
  induction promoted using List.reverseRecOn with
  | nil => rfl
  | append_singleton ms m ih =>
    rw [List.map_append, List.nodup_append] at hnodup
    obtain ⟨hms, -, hother⟩ := hnodup
    have hm : m ∈ ms ++ [m] := List.mem_append_right _ (List.mem_singleton.mpr rfl)
    rw [List.foldl_append, ih hms fun m' hm' => h m' (List.mem_append_left _ hm'),
      unheld_append]
    rcases hlookup : reg.entries.lookup m.name.pascalCase with _ | e
    · have hnone : (reg.entries ++ reg.unheld ms).lookup m.name.pascalCase = none := by
        rw [List.lookup_append, hlookup, Option.none_or, lookup_eq_none_iff_notMem]
        exact fun hmem => hother _ (keys_unheld_subset ms hmem) _ List.mem_cons_self rfl
      have hunheld : reg.unheld [m] = [(m.name.pascalCase, m)] := by simp [unheld, hlookup]
      rw [hunheld]
      simp only [List.foldl_cons, List.foldl_nil, adoptOne, hnone]
    · have hsome : (reg.entries ++ reg.unheld ms).lookup m.name.pascalCase = some e := by
        rw [List.lookup_append, hlookup, Option.some_or]
      have hunheld : reg.unheld [m] = [] := by simp [unheld, hlookup]
      rw [hunheld, List.append_nil]
      exact Adoption.adoptOne_of_isHeldIn rfl ⟨e, hsome, h m hm e hlookup⟩

theorem entries_adopt_of_fits (hnodup : (promoted.map fun m => m.name.pascalCase).Nodup)
    (h : ∀ m ∈ promoted, reg.Fits m) :
    (reg.adopt p promoted).1 = [] ∧
      (reg.adopt p promoted).2.entries = reg.entries ++ reg.unheld promoted := by
  have hadoption := foldl_of_fits (p := p) (reg.names.reserve ((promoted.map fun m =>
    m.name.pascalCase).filter fun name => (reg.entries.lookup name).isNone)) hnodup h
  rw [adopt_fst, entries_adopt, adoption, hadoption]
  exact ⟨rfl, by simp [Renames.model_nil]⟩

/-! ### A list that is taken again -/

theorem lookup_unheld (hnodup : (promoted.map fun m => m.name.pascalCase).Nodup) {m : Model}
    (hm : m ∈ promoted) (hlookup : reg.entries.lookup m.name.pascalCase = none) :
    (reg.unheld promoted).lookup m.name.pascalCase = some m := by
  have hkeys : ((reg.unheld promoted).map Prod.fst).Nodup := by
    rw [unheld, List.map_map]
    exact hnodup.sublist (List.filter_sublist.map _)
  refine lookup_eq_some_of_mem hkeys (List.mem_map.mpr ⟨m, List.mem_filter.mpr ⟨hm, ?_⟩, rfl⟩)
  rw [hlookup, Option.isNone_none]

/-- A model that fits is found, when its list has been taken, exactly if it equals the model that
was held for it before. -/
theorem isHeldIn_adopt_iff (hnodup : (promoted.map fun m => m.name.pascalCase).Nodup)
    (h : ∀ m ∈ promoted, reg.Fits m) {m : Model} (hm : m ∈ promoted) :
    m.IsHeldIn (reg.adopt p promoted).2.entries ↔ (reg.heldFor m == m) = true := by
  rw [Model.IsHeldIn, (entries_adopt_of_fits hnodup h).2, List.lookup_append, heldFor]
  rcases hlookup : reg.entries.lookup m.name.pascalCase with _ | e
  · rw [Option.none_or, lookup_unheld hnodup hm hlookup]
    simp
  · simp

theorem fits_of_heldFor {m : Model} (h : (reg.heldFor m == m) = true) : reg.Fits m := by
  intro e hlookup
  rwa [heldFor, hlookup, Option.getD_some] at h

/-- What was held under the name of a model before a list was taken is held afterwards. -/
theorem fits_of_isHeldIn_adopt {m : Model} (h : m.IsHeldIn (reg.adopt p promoted).2.entries) :
    reg.Fits m := by
  intro e hlookup
  obtain ⟨e', hlookup', heq⟩ := h
  rw [entries_adopt, List.lookup_append, hlookup, Option.some_or] at hlookup'
  cases hlookup'
  exact heq

/-- When a list of models with distinct names is taken a second time, right after the first, it adds
no models exactly if each of its models equals the one that was held under its name before the
first time, or itself where none was; and exactly then it adds none and gives the new names of the
first time, which are none at all.

A model that differs from the one that was held under its name is compared with that one again. The
name that it got is of no use to it, and it gets another one. A model equals itself unless it has a
constraint that is not a number. -/
theorem adopt_again (reg : Registry) (p : Profile) {promoted : List Model}
    (hnodup : (promoted.map fun m => m.name.pascalCase).Nodup) :
    let first := reg.adopt p promoted
    let second := first.2.adopt p promoted
    (second.2.models = first.2.models ↔ ∀ m ∈ promoted, (reg.heldFor m == m) = true) ∧
    (second.2.models = first.2.models ∧ second.1 = first.1 ↔
      ∀ m ∈ promoted, (reg.heldFor m == m) = true) ∧
    ((∀ m ∈ promoted, (reg.heldFor m == m) = true) → first.1 = [] ∧ second.1 = []) := by
  intro first second
  have hmodels : second.2.models = first.2.models ↔
      ∀ m ∈ promoted, (reg.heldFor m == m) = true := by
    rw [models_adopt_eq_iff]
    constructor
    · intro h m hm
      have hfits : ∀ m ∈ promoted, reg.Fits m := fun m hm => fits_of_isHeldIn_adopt (h m hm)
      exact (isHeldIn_adopt_iff hnodup hfits hm).mp (h m hm)
    · intro h m hm
      have hfits : ∀ m ∈ promoted, reg.Fits m := fun m hm => fits_of_heldFor (h m hm)
      exact (isHeldIn_adopt_iff hnodup hfits hm).mpr (h m hm)
  have hnames (h : ∀ m ∈ promoted, (reg.heldFor m == m) = true) :
      first.1 = [] ∧ second.1 = [] := by
    have hfits : ∀ m ∈ promoted, reg.Fits m := fun m hm => fits_of_heldFor (h m hm)
    exact ⟨(entries_adopt_of_fits hnodup hfits).1,
      adopt_fst_of_isHeldIn (models_adopt_eq_iff.mp (hmodels.mpr h))⟩
  refine ⟨hmodels, ⟨fun h => hmodels.mp h.1, fun h => ⟨hmodels.mpr h, ?_⟩⟩, hnames⟩
  rw [(hnames h).1, (hnames h).2]

/-- A list of a model that is held and one that is not is shared the second time. -/
theorem adopt_again_of_held :
    let item : Model := { name := Name.ofText "Item" }
    let box : Model := { name := Name.ofText "Box", shape := .synonym (.ofModel "Item") }
    let reg := ((initial ["Order"]).adopt .jaxrsSpec [item]).2
    let first := reg.adopt .jaxrsSpec [item, box]
    let second := first.2.adopt .jaxrsSpec [item, box]
    Reachable .jaxrsSpec ["Order"] reg ∧
    ([item, box].map fun m => m.name.pascalCase).Nodup ∧
    second.2.models = first.2.models ∧ second.1 = first.1 := by
  intro item box reg first second
  have hnodup : ([item, box].map fun m => m.name.pascalCase).Nodup := by decide +kernel
  have hheld : ∀ m ∈ [item, box], (reg.heldFor m == m) = true := by decide +kernel
  exact ⟨.adopt .initial [item], hnodup, (adopt_again reg .jaxrsSpec hnodup).2.1.mpr hheld⟩

/-- A model that differs from the one that is held under its name gets a new name each time. -/
theorem renamed_again_of_clash :
    let item : Model := { name := Name.ofText "Item" }
    let other : Model := { item with description := some "another item" }
    let reg := ((initial ["Order"]).adopt .jaxrsSpec [item]).2
    let first := reg.adopt .jaxrsSpec [other]
    let second := first.2.adopt .jaxrsSpec [other]
    Reachable .jaxrsSpec ["Order"] reg ∧ ([other].map fun m => m.name.pascalCase).Nodup ∧
    first.1 = [("Item", "Item2")] ∧ second.1 = [("Item", "Item3")] ∧
    second.2.keys = ["Item", "Item2", "Item3"] ∧
    ¬ (second.2.models = first.2.models ∧ second.1 = first.1) := by
  intro item other reg first second
  have hfirst : first.1 = [("Item", "Item2")] := by decide +kernel
  have hsecond : second.1 = [("Item", "Item3")] := by decide +kernel
  refine ⟨.adopt .initial [item], by decide +kernel, hfirst, hsecond, by decide +kernel, ?_⟩
  rintro ⟨-, hnames⟩
  rw [hfirst, hsecond] at hnames
  revert hnames
  decide +kernel

end Registry

end ApiModel
