import ApiModel.Generation.Registry
import ApiModel.Proofs.Generation.Renaming
import ApiModel.Proofs.Name.Allocator
import ApiModel.Proofs.Target.Equality

/-!
# What the registry makes of promoted models

The registry takes one list of promoted models after the other. Its keys are distinct, and are
taken names, whatever the lists are. When the models of a list come in order, each of them is found
afterwards under its new name: as a model that was there before, as itself, or under a fresh name,
with everything it mentions under the new names.

A model is compared with one of the same name under the new names so far. These agree with the
complete new names on all that it mentions, since it mentions only named schemas, which keep their
names, and models before it, whose names are settled.

## Main definitions

* `Registry.keys`, `Registry.index?`: the names of the taken models and their places.
* `Registry.Reachable`: the registries that come of taking lists of models.
* `Registry.Sound`, `Adoption.Sound`: what holds of registries, and while a list is taken.
* `Registry.Adoptable`: lists of promoted models that come in order.
* `Renames.placed`: a model as it is placed in the registry.

## Main results

* `Registry.Reachable.sound`: the invariant of registries.
* `Adoption.Sound.foldl`, `Adoption.Sound.outcome_foldl`: what holds when a whole list is taken.
* `Registry.adopt_finds_models`: every model of a list is found afterwards.
-/

namespace ApiModel

namespace Registry

/-- The names under which models have been taken, in order. -/
def keys (reg : Registry) : List String := reg.entries.map Prod.fst

/-- The place of the model that has been taken under a name. -/
def index? (reg : Registry) (name : String) : Option Nat :=
  reg.entries.findIdx? fun e => e.1 == name

/-- The registries that come of taking lists of promoted models, whatever these are. -/
inductive Reachable (p : Profile) (schemaNames : List String) : Registry → Prop where
  | initial : Reachable p schemaNames (initial schemaNames)
  | adopt {reg : Registry} (h : Reachable p schemaNames reg) (promoted : List Model) :
      Reachable p schemaNames (reg.adopt p promoted).2

/-- The names of the models of schemas of some names. -/
def modelNames (schemaNames : List String) : List String :=
  schemaNames.map fun n => (Name.ofText n).pascalCase

/-- What holds of a registry: no key comes twice, and the keys and the names of the models of the
named schemas are taken. -/
structure Sound (schemaNames : List String) (reg : Registry) : Prop where
  nodup : reg.keys.Nodup
  keys_taken : reg.keys ⊆ reg.names.taken
  named_taken : modelNames schemaNames ⊆ reg.names.taken

end Registry

/-! ### Taking one model -/

namespace Adoption

variable (reg : Registry) (p : Profile)

/-- The models that are held while a list is taken, by name. -/
def known (a : Adoption) : List (String × Model) := reg.entries ++ a.added

/-- A model is new, or is shared, or is taken under a fresh name. -/
theorem adoptOne_cases (a : Adoption) (m : Model) :
    ((a.known reg).lookup m.name.pascalCase = none ∧
      Registry.adoptOne p reg.entries a m =
        { a with added := a.added ++ [(m.name.pascalCase, m)] }) ∨
    (∃ existing, (a.known reg).lookup m.name.pascalCase = some existing ∧
      (existing == a.renames.model p m) = true ∧ Registry.adoptOne p reg.entries a m = a) ∨
    (m.name.pascalCase ∈ (a.known reg).map Prod.fst ∧
      Registry.adoptOne p reg.entries a m =
        { names := (a.names.claim m.name.pascalCase).2
          added := a.added ++ [(a.names.grant m.name.pascalCase,
            m.named (a.names.grant m.name.pascalCase))]
          renames := (m.name.pascalCase, a.names.grant m.name.pascalCase) :: a.renames }) := by
  rcases hlookup : (a.known reg).lookup m.name.pascalCase with _ | existing
  · refine .inl ⟨rfl, ?_⟩
    rw [known] at hlookup
    simp only [Registry.adoptOne, hlookup]
  · by_cases heq : (existing == a.renames.model p m) = true
    · refine .inr (.inl ⟨existing, rfl, heq, ?_⟩)
      rw [known] at hlookup
      simp only [Registry.adoptOne, hlookup, if_pos heq]
    · refine .inr (.inr ⟨mem_keys_of_lookup_eq_some hlookup, ?_⟩)
      rw [known] at hlookup
      simp only [Registry.adoptOne, hlookup, if_neg heq, Allocator.claim]

/-! ### What holds while a list is taken -/

variable {reg p}

/-- What holds while a list is taken, of which the models of `done` have been taken. -/
structure Sound (reg : Registry) (promoted done : List Model) (a : Adoption) : Prop where
  /-- What was taken stays taken. -/
  taken : reg.names.taken ⊆ a.names.taken
  /-- The names of the whole list are taken, so no fresh name is one of them. -/
  held : ∀ m ∈ promoted, m.name.pascalCase ∈ a.names.taken
  keys_taken : (a.known reg).map Prod.fst ⊆ a.names.taken
  nodup : ((a.known reg).map Prod.fst).Nodup
  /-- The name of every model of the list is there. -/
  found : ∀ m ∈ done, m.name.pascalCase ∈ (a.known reg).map Prod.fst
  /-- Only models of the list have new names, under which they are there. -/
  renames : ∀ e ∈ a.renames, (∃ m ∈ done, m.name.pascalCase = e.1) ∧
    e.2 ∈ (a.known reg).map Prod.fst
  /-- A new model is one of the list, under its own name or under a fresh one, which is its own with
  a number behind it. -/
  added : ∀ e ∈ a.added, ∃ m ∈ done, e = (m.name.pascalCase, m) ∨
    (∀ m' ∈ promoted, m'.name.pascalCase ≠ e.1) ∧
      (∃ n, e.1 = Allocator.numbered m.name.pascalCase n) ∧ e.2 = m.named e.1

namespace Sound

variable {promoted done : List Model} {a : Adoption} {m : Model}

/-- One more entry under a name that is taken and is not there. -/
theorem push (h : Sound reg promoted done a) {names : Allocator} {renames : Renames}
    {name : String} {e : Model} (htaken : a.names.taken ⊆ names.taken) (hname : name ∈ names.taken)
    (hnew : name ∉ (a.known reg).map Prod.fst)
    (hfound : m.name.pascalCase ∈ (a.known reg).map Prod.fst ∨ m.name.pascalCase = name)
    (hrenames : ∀ e ∈ renames, e ∈ a.renames ∨ e = (m.name.pascalCase, name))
    (hadded : (name, e) = (m.name.pascalCase, m) ∨
      (∀ m' ∈ promoted, m'.name.pascalCase ≠ name) ∧
        (∃ n, name = Allocator.numbered m.name.pascalCase n) ∧ e = m.named name) :
    Sound reg promoted (done ++ [m]) { names, added := a.added ++ [(name, e)], renames } := by
  have hkeys : (Adoption.known reg { names, added := a.added ++ [(name, e)], renames }).map
      Prod.fst = (a.known reg).map Prod.fst ++ [name] := by
    simp [known]
  have hmono {k : String} (hk : k ∈ (a.known reg).map Prod.fst) :
      k ∈ (a.known reg).map Prod.fst ++ [name] := List.mem_append_left _ hk
  have hself : name ∈ (a.known reg).map Prod.fst ++ [name] :=
    List.mem_append_right _ (List.mem_singleton.mpr rfl)
  have hdone {m' : Model} (hm' : m' ∈ done) : m' ∈ done ++ [m] := List.mem_append_left _ hm'
  have hm : m ∈ done ++ [m] := List.mem_append_right _ (List.mem_singleton.mpr rfl)
  refine ⟨List.Subset.trans h.taken htaken, fun m' hm' => htaken (h.held m' hm'), ?_, ?_, ?_, ?_, ?_⟩
  · rw [hkeys]
    intro k hk
    rcases List.mem_append.mp hk with hk | hk
    · exact htaken (h.keys_taken hk)
    · exact List.mem_singleton.mp hk ▸ hname
  · rw [hkeys, ← List.concat_eq_append]
    exact h.nodup.concat hnew
  · rw [hkeys]
    intro m' hm'
    rcases List.mem_append.mp hm' with hm' | hm'
    · exact hmono (h.found m' hm')
    · obtain rfl := List.mem_singleton.mp hm'
      exact hfound.elim hmono fun heq => heq ▸ hself
  · rw [hkeys]
    intro e' he'
    rcases hrenames e' he' with he' | rfl
    · obtain ⟨⟨m', hm', hname'⟩, hkey⟩ := h.renames e' he'
      exact ⟨⟨m', hdone hm', hname'⟩, hmono hkey⟩
    · exact ⟨⟨m, hm, rfl⟩, hself⟩
  · intro e' he'
    rcases List.mem_append.mp he' with he' | he'
    · obtain ⟨m', hm', horigin⟩ := h.added e' he'
      exact ⟨m', hdone hm', horigin⟩
    · obtain rfl := List.mem_singleton.mp he'
      exact ⟨m, hm, hadded⟩

/-- Taking one more model of the list keeps what holds. -/
theorem adoptOne (h : Sound reg promoted done a) (hm : m ∈ promoted) :
    Sound reg promoted (done ++ [m]) (Registry.adoptOne p reg.entries a m) := by
  rcases adoptOne_cases reg p a m with
    ⟨hnone, hstep⟩ | ⟨existing, hsome, -, hstep⟩ | ⟨hfound, hstep⟩ <;> rw [hstep]
  · exact h.push (fun _ hk => hk) (h.held m hm) (lookup_eq_none_iff_notMem.mp hnone) (.inr rfl)
      (fun _ he => .inl he) (.inl rfl)
  · have hdone {m' : Model} (hm' : m' ∈ done) : m' ∈ done ++ [m] := List.mem_append_left _ hm'
    refine { h with found := fun m' hm' => ?_, renames := fun e he => ?_, added := fun e he => ?_ }
    · rcases List.mem_append.mp hm' with hm' | hm'
      · exact h.found m' hm'
      · obtain rfl := List.mem_singleton.mp hm'
        exact mem_keys_of_lookup_eq_some hsome
    · obtain ⟨⟨m', hm', hname'⟩, hkey⟩ := h.renames e he
      exact ⟨⟨m', hdone hm', hname'⟩, hkey⟩
    · obtain ⟨m', hm', horigin⟩ := h.added e he
      exact ⟨m', hdone hm', horigin⟩
  · have hfresh := a.names.grant_notMem m.name.pascalCase
    have hnumbered : ∃ n, a.names.grant m.name.pascalCase =
        Allocator.numbered m.name.pascalCase n := by
      refine (a.names.grant_eq_or_numbered m.name.pascalCase).resolve_left fun heq => hfresh ?_
      exact heq.symm ▸ h.held m hm
    refine h.push (fun _ hk => List.mem_cons_of_mem _ hk) List.mem_cons_self
      (fun hk => hfresh (h.keys_taken hk)) (.inl hfound) (fun e he => ?_)
      (.inr ⟨fun m' hm' heq => hfresh (heq ▸ h.held m' hm'), hnumbered, rfl⟩)
    exact (List.mem_cons.mp he).symm

/-- Taking a whole list keeps what holds. -/
theorem foldl {rest : List Model} (h : Sound reg promoted done a) (hrest : rest ⊆ promoted) :
    Sound reg promoted (done ++ rest) (rest.foldl (Registry.adoptOne p reg.entries) a) := by
  induction rest generalizing done a with
  | nil => simpa using h
  | cons m rest ih =>
    have hstep := h.adoptOne (p := p) (hrest List.mem_cons_self)
    have hrun := ih hstep fun _ hm => hrest (List.mem_cons_of_mem _ hm)
    rwa [List.append_assoc] at hrun

end Sound

end Adoption

/-! ### Taking a list -/

namespace Registry

variable (reg : Registry) (p : Profile) (promoted : List Model)

/-- What has been taken when a list has been gone through. -/
def adoption : Adoption :=
  promoted.foldl (adoptOne p reg.entries)
    { names := reg.names.reserve ((promoted.map fun m => m.name.pascalCase).filter fun name =>
        (reg.entries.lookup name).isNone) }

theorem adopt_fst : (reg.adopt p promoted).1 = (reg.adoption p promoted).renames := rfl

theorem names_adopt : (reg.adopt p promoted).2.names = (reg.adoption p promoted).names := rfl

/-- The new models refer to each other under the complete new names. -/
theorem entries_adopt : (reg.adopt p promoted).2.entries =
    reg.entries ++ (reg.adoption p promoted).added.map fun e =>
      (e.1, (reg.adoption p promoted).renames.model p e.2) := rfl

theorem keys_adopt : (reg.adopt p promoted).2.keys =
    ((reg.adoption p promoted).known reg).map Prod.fst := by
  rw [keys, entries_adopt, Adoption.known, List.map_append, List.map_append, List.map_map]
  rfl

/-- No name is lost. -/
theorem keys_subset_adopt : reg.keys ⊆ (reg.adopt p promoted).2.keys := by
  rw [keys, keys, entries_adopt, List.map_append]
  exact List.subset_append_left _ _

variable {reg p promoted} {schemaNames : List String}

theorem Sound.start (h : reg.Sound schemaNames) (promoted : List Model) :
    Adoption.Sound reg promoted []
      { names := reg.names.reserve ((promoted.map fun m => m.name.pascalCase).filter fun name =>
          (reg.entries.lookup name).isNone) } where
  taken := fun _ hk => List.mem_append_right _ hk
  held m hm := by
    rw [Allocator.taken_reserve, List.mem_append, List.mem_filter, Option.isNone_iff_eq_none]
    rcases hlookup : reg.entries.lookup m.name.pascalCase with _ | e
    · exact .inl ⟨List.mem_map_of_mem hm, rfl⟩
    · exact .inr (h.keys_taken (mem_keys_of_lookup_eq_some hlookup))
  keys_taken := by
    rw [Adoption.known, List.append_nil]
    exact fun _ hk => List.mem_append_right _ (h.keys_taken hk)
  nodup := by
    rw [Adoption.known, List.append_nil]
    exact h.nodup
  found := by simp
  renames := by simp
  added := by simp

theorem Sound.adoption (h : reg.Sound schemaNames) (p : Profile) (promoted : List Model) :
    Adoption.Sound reg promoted promoted (reg.adoption p promoted) :=
  (h.start promoted).foldl fun _ hm => hm

theorem Sound.adopt (h : reg.Sound schemaNames) (p : Profile) (promoted : List Model) :
    (reg.adopt p promoted).2.Sound schemaNames where
  nodup := by
    rw [keys_adopt]
    exact (h.adoption p promoted).nodup
  keys_taken := by
    rw [keys_adopt, names_adopt]
    exact (h.adoption p promoted).keys_taken
  named_taken := List.Subset.trans h.named_taken (h.adoption p promoted).taken

/-- What is among the entries afterwards was there before, or is a model of the list under the new
names, by its own name or by this with a number behind it. -/
theorem Sound.mem_entries_adopt (h : reg.Sound schemaNames) {e : String × Model}
    (he : e ∈ (reg.adopt p promoted).2.entries) :
    e ∈ reg.entries ∨ ∃ m ∈ promoted,
      e = (m.name.pascalCase, (reg.adopt p promoted).1.model p m) ∨
        (∃ n, e.1 = Allocator.numbered m.name.pascalCase n) ∧
          e.2 = (reg.adopt p promoted).1.model p (m.named e.1) := by
  rw [entries_adopt] at he
  rcases List.mem_append.mp he with he | he
  · exact .inl he
  · obtain ⟨e', he', rfl⟩ := List.mem_map.mp he
    obtain ⟨m, hm, rfl | ⟨-, hnumbered, hnamed⟩⟩ := (h.adoption p promoted).added e' he'
    · exact .inr ⟨m, hm, .inl rfl⟩
    · exact .inr ⟨m, hm, .inr ⟨hnumbered, by rw [hnamed]; rfl⟩⟩

/-- What models keep under any names holds of all that have been taken, if it held before. -/
theorem Sound.forall_adopt (h : reg.Sound schemaNames) {P : Model → Prop}
    (hnamed : ∀ (m : Model) (name : String), P m → P (m.named name))
    (hrenamed : ∀ (m : Model) (ρ : Renames), P m → P (ρ.model p m))
    (hreg : ∀ e ∈ reg.entries, P e.2) (hpromoted : ∀ m ∈ promoted, P m) :
    ∀ e ∈ (reg.adopt p promoted).2.entries, P e.2 := by
  intro e he
  rcases h.mem_entries_adopt he with he | ⟨m, hm, rfl | ⟨-, hname⟩⟩
  · exact hreg e he
  · exact hrenamed m _ (hpromoted m hm)
  · rw [hname]
    exact hrenamed _ _ (hnamed m e.1 (hpromoted m hm))

theorem sound_initial (schemaNames : List String) : (initial schemaNames).Sound schemaNames where
  nodup := List.nodup_nil
  keys_taken := List.nil_subset _
  named_taken := fun _ hn => List.mem_append_left _ hn

/-- The invariant of registries. -/
theorem Reachable.sound (h : Reachable p schemaNames reg) : reg.Sound schemaNames := by
  induction h with
  | initial => exact sound_initial schemaNames
  | adopt _ promoted ih => exact ih.adopt p promoted

/-! ### Places -/

/-- Where no key comes twice, an entry is found at its place. -/
theorem index?_of_getElem? (h : reg.keys.Nodup) {i : Nat} {e : String × Model}
    (hi : reg.entries[i]? = some e) : reg.index? e.1 = some i := by
  obtain ⟨hlt, rfl⟩ := List.getElem?_eq_some_iff.mp hi
  rw [index?, List.findIdx?_eq_some_iff_getElem]
  refine ⟨hlt, by simp, fun j hj heq => ?_⟩
  have hi' : i < reg.keys.length := by rwa [keys, List.length_map]
  have hj' : j < reg.keys.length := by omega
  have hkeys : reg.keys[j] = reg.keys[i] := by simpa [keys] using heq
  have hij : j = i := h.getElem_inj_iff.mp hkeys
  omega

theorem getElem?_of_index? {name : String} {i : Nat} (h : reg.index? name = some i) :
    ∃ m, reg.entries[i]? = some (name, m) := by
  obtain ⟨hlt, heq, -⟩ := List.findIdx?_eq_some_iff_getElem.mp h
  refine ⟨reg.entries[i].2, ?_⟩
  rw [List.getElem?_eq_getElem hlt, ← beq_iff_eq.mp heq]

/-- No two names lead to one place. -/
theorem index?_injective {name name' : String} {i : Nat} (h : reg.index? name = some i)
    (h' : reg.index? name' = some i) : name = name' := by
  obtain ⟨m, hm⟩ := getElem?_of_index? h
  obtain ⟨m', hm'⟩ := getElem?_of_index? h'
  rw [hm] at hm'
  cases hm'
  rfl

end Registry

/-! ### Lists that come in order -/

/-- What lets a registry take a list of promoted models without confusing any: their names are
distinct and not those of named schemas, their types are rendered by the profile, and each of them
mentions only named schemas and models before it. -/
structure Registry.Adoptable (p : Profile) (schemaNames : List String) (promoted : List Model) :
    Prop where
  nodup : (promoted.map fun m => m.name.pascalCase).Nodup
  other : ∀ m ∈ promoted, m.name.pascalCase ∉ modelNames schemaNames
  rendered : ∀ m ∈ promoted, m.Rendered p
  earlier : ∀ (i : Nat) (m : Model), promoted[i]? = some m → ∀ n ∈ m.mentions,
    n ∈ modelNames schemaNames ∨ n ∈ (promoted.take i).map fun m => m.name.pascalCase

/-- A model as it is placed in the registry: under its new name, if it has one, and with all that it
mentions under the new names. -/
def Renames.placed (ρ : Renames) (p : Profile) (m : Model) : Model :=
  match ρ.lookup m.name.pascalCase with
  | some fresh => ρ.model p (m.named fresh)
  | none => ρ.model p m

/-- What is placed under a new name has this name, and so has the owner of its fields. -/
theorem Renames.name_placed_of_lookup {ρ : Renames} (p : Profile) {m : Model} {fresh : String}
    (h : ρ.lookup m.name.pascalCase = some fresh) :
    (ρ.placed p m).name = Name.ofText fresh ∧ ∀ f ∈ (ρ.placed p m).fields, f.owner = fresh := by
  have hne : ρ ≠ [] := by
    rintro rfl
    cases h
  rw [placed, h]
  dsimp only
  refine ⟨name_model ρ p _, fun f hf => ?_⟩
  rw [ρ.model_of_ne_nil p _ hne] at hf
  obtain ⟨f', hf', rfl⟩ := List.mem_map.mp hf
  obtain ⟨f, -, rfl⟩ := List.mem_map.mp hf'
  rfl

namespace Model

variable (m : Model) (name : String)

/-- Under another name a model refers to the types to which it refers under its own. -/
theorem referencedTypes_named : (m.named name).referencedTypes = m.referencedTypes := by
  have hfields : (m.named name).fields.map Field.type = m.fields.map Field.type := by
    simp only [named, List.map_map, Function.comp_def]
  rw [referencedTypes, hfields]
  rfl

theorem references_named : (m.named name).references = m.references := by
  rw [references, referencedTypes_named]
  rfl

theorem targets_named : (m.named name).targets = m.targets := by
  rw [targets, referencedTypes_named]
  rfl

theorem mentions_named : (m.named name).mentions = m.mentions := by
  rw [mentions, referencedTypes_named]
  rfl

end Model

theorem Renames.mentions_placed (ρ : Renames) (p : Profile) (m : Model) :
    (ρ.placed p m).mentions = m.mentions.map ρ.of := by
  rw [placed]
  split
  · rw [mentions_model, Model.mentions_named]
  · rw [mentions_model]

namespace Registry.Adoptable

variable {p : Profile} {schemaNames : List String} {done rest : List Model} {m m' : Model}

theorem name_ne (h : Adoptable p schemaNames (done ++ m :: rest)) (hm' : m' ∈ done) :
    m'.name.pascalCase ≠ m.name.pascalCase := by
  have hnodup := h.nodup
  rw [List.map_append, List.nodup_append] at hnodup
  exact hnodup.2.2 _ (List.mem_map_of_mem hm') _ List.mem_cons_self

/-- No model mentions a later one. -/
theorem ne_of_mem_mentions (h : Adoptable p schemaNames (done ++ m :: rest)) (hm' : m' ∈ done)
    {n : String} (hn : n ∈ m'.mentions) : n ≠ m.name.pascalCase := by
  obtain ⟨i, hi⟩ := List.getElem?_of_mem hm'
  have hlt : i < done.length := (List.getElem?_eq_some_iff.mp hi).1
  have hi' : (done ++ m :: rest)[i]? = some m' := by rwa [List.getElem?_append_left hlt]
  rintro rfl
  rcases h.earlier i m' hi' _ hn with hnamed | htake
  · exact h.other m (List.mem_append_right _ List.mem_cons_self) hnamed
  · rw [List.take_append_of_le_length (Nat.le_of_lt hlt)] at htake
    obtain ⟨m'', hm'', hname⟩ := List.mem_map.mp htake
    exact h.name_ne (List.mem_of_mem_take hm'') hname

end Registry.Adoptable

namespace Adoption

variable {reg : Registry} {p : Profile} {schemaNames : List String} {a a' : Adoption} {m : Model}

/-- What has become of a model: it is new, or shared with a model that was there before, or it is
there under a fresh name. -/
inductive Outcome (p : Profile) (reg : Registry) (a : Adoption) (m : Model) : Prop where
  | new (hname : a.renames.lookup m.name.pascalCase = none)
      (hmem : (m.name.pascalCase, m) ∈ a.added)
  | shared {e : Model} (hname : a.renames.lookup m.name.pascalCase = none)
      (hmem : (m.name.pascalCase, e) ∈ reg.entries)
      (heq : (e == a.renames.model p m) = true)
  | renamed {fresh : String} (hname : a.renames.lookup m.name.pascalCase = some fresh)
      (hmem : (fresh, m.named fresh) ∈ a.added)

/-- What has become of a model stays, when its name and all that it mentions keep the new names that
they have. -/
theorem Outcome.mono (h : Outcome p reg a m) (hadded : a.added ⊆ a'.added)
    (hname : a'.renames.lookup m.name.pascalCase = a.renames.lookup m.name.pascalCase)
    (hmodel : a'.renames.model p m = a.renames.model p m) : Outcome p reg a' m := by
  cases h with
  | new h hmem => exact .new (hname.trans h) (hadded hmem)
  | shared h hmem heq => exact .shared (hname.trans h) hmem (hmodel ▸ heq)
  | renamed h hmem => exact .renamed (hname.trans h) (hadded hmem)

theorem lookup_cons_ne {ρ : Renames} {n k v : String} (h : n ≠ k) :
    List.lookup n ((k, v) :: ρ) = ρ.lookup n := by
  rw [List.lookup_cons, beq_eq_false_iff_ne.mpr h]

/-- A model without a new name so far has none. -/
theorem Sound.lookup_renames_eq_none {done rest : List Model}
    (hP : Registry.Adoptable p schemaNames (done ++ m :: rest))
    (h : Sound reg (done ++ m :: rest) done a) :
    a.renames.lookup m.name.pascalCase = none := by
  rw [lookup_eq_none_iff_notMem]
  intro hmem
  obtain ⟨e, he, hkey⟩ := List.mem_map.mp hmem
  obtain ⟨⟨m', hm', hname⟩, -⟩ := h.renames e he
  exact hP.name_ne hm' (hname.trans hkey)

/-- A model with which the next one of a list shares its name was there before. -/
theorem Sound.mem_entries_of_lookup {done rest : List Model} {e : Model}
    (hP : Registry.Adoptable p schemaNames (done ++ m :: rest))
    (h : Sound reg (done ++ m :: rest) done a)
    (hlookup : (a.known reg).lookup m.name.pascalCase = some e) :
    (m.name.pascalCase, e) ∈ reg.entries := by
  rcases List.mem_append.mp (mem_of_lookup_eq_some hlookup) with hmem | hmem
  · exact hmem
  · obtain ⟨m', hm', heq | ⟨hne, -⟩⟩ := h.added _ hmem
    · exact absurd (congrArg Prod.fst heq).symm (hP.name_ne hm')
    · exact absurd rfl (hne m (List.mem_append_right _ List.mem_cons_self))

/-- Taking one more model settles what becomes of it, and leaves what has become of the models
before it. -/
theorem Sound.outcome_adoptOne (hp : p.DistinctWrappers) {done rest : List Model}
    (hP : Registry.Adoptable p schemaNames (done ++ m :: rest))
    (h : Sound reg (done ++ m :: rest) done a) (hdone : ∀ m' ∈ done, Outcome p reg a m') :
    ∀ m' ∈ done ++ [m], Outcome p reg (Registry.adoptOne p reg.entries a m) m' := by
  have hnone := h.lookup_renames_eq_none hP
  intro m' hm'
  rcases List.mem_append.mp hm' with hm' | hm'
  · have hrendered : m'.Rendered p := hP.rendered m' (List.mem_append_left _ hm')
    rcases adoptOne_cases reg p a m with
      ⟨-, hstep⟩ | ⟨existing, -, -, hstep⟩ | ⟨-, hstep⟩ <;> rw [hstep]
    · exact (hdone m' hm').mono (List.subset_append_left _ _) rfl rfl
    · exact hdone m' hm'
    · refine (hdone m' hm').mono (List.subset_append_left _ _)
        (lookup_cons_ne (hP.name_ne hm')) ?_
      exact Renames.model_congr hp hrendered fun n hn =>
        lookup_cons_ne (hP.ne_of_mem_mentions hm' hn)
  · obtain rfl := List.mem_singleton.mp hm'
    have hlast (e : String × Model) : e ∈ a.added ++ [e] :=
      List.mem_append_right _ (List.mem_singleton.mpr rfl)
    rcases adoptOne_cases reg p a m' with
      ⟨-, hstep⟩ | ⟨existing, hsome, heq, hstep⟩ | ⟨-, hstep⟩ <;> rw [hstep]
    · exact .new hnone (hlast _)
    · exact .shared hnone (h.mem_entries_of_lookup hP hsome) heq
    · exact .renamed List.lookup_cons_self (hlast _)

/-- What has become of the models of a list when all of it is taken. -/
theorem Sound.outcome_foldl (hp : p.DistinctWrappers) {done rest : List Model}
    (hP : Registry.Adoptable p schemaNames (done ++ rest))
    (h : Sound reg (done ++ rest) done a) (hdone : ∀ m' ∈ done, Outcome p reg a m') :
    ∀ m' ∈ done ++ rest, Outcome p reg (rest.foldl (Registry.adoptOne p reg.entries) a) m' := by
  induction rest generalizing done a with
  | nil => simpa using hdone
  | cons m rest ih =>
    have hassoc : done ++ m :: rest = (done ++ [m]) ++ rest := by simp
    have hstep := h.adoptOne (p := p) (List.mem_append_right _ List.mem_cons_self)
    have houtcome := h.outcome_adoptOne hp hP hdone
    rw [hassoc] at hP hstep ⊢
    exact ih hP hstep houtcome

end Adoption

namespace Registry

variable {reg : Registry} {p : Profile} {schemaNames : List String} {promoted : List Model}

/-- Every model of a list that comes in order is among the entries afterwards, as it is to be
placed. Only one that keeps its name may be there as another that equals it. -/
theorem Sound.exists_entry (h : reg.Sound schemaNames) (hp : p.DistinctWrappers)
    (hP : Adoptable p schemaNames promoted) {m : Model} (hm : m ∈ promoted) :
    ∃ e, ((reg.adopt p promoted).1.of m.name.pascalCase, e) ∈ (reg.adopt p promoted).2.entries ∧
      (e = (reg.adopt p promoted).1.placed p m ∨
        (reg.adopt p promoted).1.lookup m.name.pascalCase = none ∧
          (e == (reg.adopt p promoted).1.placed p m) = true) := by
  have hP' : Adoptable p schemaNames ([] ++ promoted) := hP
  have houtcome : Adoption.Outcome p reg (reg.adoption p promoted) m :=
    (h.start promoted).outcome_foldl hp hP' (fun _ h => by cases h) m hm
  rw [entries_adopt, adopt_fst, Renames.placed, Renames.of]
  cases houtcome with
  | new hname hmem =>
    rw [hname]
    exact ⟨_, List.mem_append_right _ (List.mem_map.mpr ⟨_, hmem, rfl⟩), .inl rfl⟩
  | shared hname hmem heq =>
    rw [hname]
    exact ⟨_, List.mem_append_left _ hmem, .inr ⟨rfl, heq⟩⟩
  | renamed hname hmem =>
    rw [hname]
    exact ⟨_, List.mem_append_right _ (List.mem_map.mpr ⟨_, hmem, rfl⟩), .inl rfl⟩

theorem index?_adopt {name : String} {i : Nat} (h : reg.index? name = some i) :
    (reg.adopt p promoted).2.index? name = some i := by
  rw [index?, entries_adopt, List.findIdx?_append]
  exact Option.or_eq_some_iff.mpr (.inl h)

/-- Taking a list of promoted models neither loses nor confuses any: each of them is found under its
new name, as it is to be placed and with all that it mentions under the new names, and if it has been
renamed, this is its name and that of the owner of its fields; what was there before stays in its
place; and no two names lead to one place.

What is found is the very model that is to be placed or one that equals it. The first does not make
the second: a model with a constraint that is not a number does not equal itself. -/
theorem adopt_finds_models {id : String} (hp : Profile.builtin? id = some p)
    (hreg : Reachable p schemaNames reg) (hP : Adoptable p schemaNames promoted) :
    (∀ m ∈ promoted, ∃ i e,
      (reg.adopt p promoted).2.index? ((reg.adopt p promoted).1.of m.name.pascalCase) = some i ∧
      (reg.adopt p promoted).2.models[i]? = some e ∧
      (e = (reg.adopt p promoted).1.placed p m ∨
        (e == (reg.adopt p promoted).1.placed p m) = true) ∧
      e.mentions = m.mentions.map (reg.adopt p promoted).1.of ∧
      ∀ fresh, (reg.adopt p promoted).1.lookup m.name.pascalCase = some fresh →
        e.name = Name.ofText fresh ∧ ∀ f ∈ e.fields, f.owner = fresh) ∧
    (∀ name i, reg.index? name = some i → (reg.adopt p promoted).2.index? name = some i) ∧
    reg.models <+: (reg.adopt p promoted).2.models ∧
    ∀ name name' i, (reg.adopt p promoted).2.index? name = some i →
      (reg.adopt p promoted).2.index? name' = some i → name = name' := by
  have hsound := hreg.sound
  refine ⟨fun m hm => ?_, fun _ _ => index?_adopt, ?_, fun _ _ _ => index?_injective⟩
  · obtain ⟨e, he, hplaced⟩ :=
      hsound.exists_entry (Profile.distinctWrappers_of_builtin hp) hP hm
    obtain ⟨i, hi⟩ := List.getElem?_of_mem he
    refine ⟨i, e, index?_of_getElem? (hsound.adopt p promoted).nodup hi, ?_,
      hplaced.imp_right And.right, ?_, fun fresh hfresh => ?_⟩
    · rw [models, List.getElem?_map, hi, Option.map_some]
    · rw [← Renames.mentions_placed _ p]
      rcases hplaced with rfl | ⟨-, heq⟩
      · rfl
      · exact Model.mentions_eq_of_beq heq
    · rcases hplaced with rfl | ⟨hnone, -⟩
      · exact Renames.name_placed_of_lookup p hfresh
      · cases hnone.symm.trans hfresh
  · rw [models, models, entries_adopt, List.map_append]
    exact List.prefix_append _ _

/-- A different model of a name that is held gets a fresh name, and the model after it mentions it
under that name. -/
theorem adopt_finds_models_of_clash :
    let item : Model := { name := Name.ofText "Item" }
    let other : Model := { item with description := some "another item" }
    let box : Model := { name := Name.ofText "Box", shape := .synonym (.ofModel "Item") }
    let reg := ((initial ["Order"]).adopt .jaxrsSpec [item]).2
    Profile.builtin? "jaxrs_spec" = some .jaxrsSpec ∧
    Reachable .jaxrsSpec ["Order"] reg ∧ Adoptable .jaxrsSpec ["Order"] [other, box] ∧
    (∃ i e, (reg.adopt .jaxrsSpec [other, box]).2.index? "Item2" = some i ∧
      (reg.adopt .jaxrsSpec [other, box]).2.models[i]? = some e ∧ e.name = Name.ofText "Item2") ∧
    ∃ i e, (reg.adopt .jaxrsSpec [other, box]).2.index? "Box" = some i ∧
      (reg.adopt .jaxrsSpec [other, box]).2.models[i]? = some e ∧ e.mentions = ["Item2"] := by
  intro item other box reg
  have hreg : Reachable .jaxrsSpec ["Order"] reg := .adopt .initial [item]
  have hP : Adoptable .jaxrsSpec ["Order"] [other, box] := by
    refine ⟨by decide +kernel, by decide +kernel, fun m hm t ht u hu => ?_, ?_⟩
    · rcases List.mem_pair.mp hm with rfl | rfl
      · cases ht
      · obtain rfl := List.mem_singleton.mp ht
        obtain rfl := List.mem_singleton.mp hu
        trivial
    · rintro (_ | _ | i) m hm n hn <;> cases hm
      · cases hn
      · obtain rfl := List.mem_singleton.mp hn
        exact .inr (by decide +kernel)
  have hp : Profile.builtin? "jaxrs_spec" = some .jaxrsSpec := rfl
  obtain ⟨hfound, -⟩ := adopt_finds_models hp hreg hP
  obtain ⟨i, e, hi, he, -, -, hnamed⟩ := hfound other (by simp)
  obtain ⟨j, e', hj, he', -, hmentions, -⟩ := hfound box (by simp)
  have hother : (reg.adopt .jaxrsSpec [other, box]).1.of other.name.pascalCase = "Item2" := by
    decide +kernel
  have hbox : (reg.adopt .jaxrsSpec [other, box]).1.of box.name.pascalCase = "Box" := by
    decide +kernel
  have hitem : box.mentions.map (reg.adopt .jaxrsSpec [other, box]).1.of = ["Item2"] := by
    decide +kernel
  obtain ⟨hname, -⟩ := hnamed "Item2" (by decide +kernel)
  rw [hother] at hi
  rw [hbox] at hj
  exact ⟨hp, hreg, hP, ⟨i, e, hi, he, hname⟩, j, e', hj, he', hmentions.trans hitem⟩

end Registry

end ApiModel
