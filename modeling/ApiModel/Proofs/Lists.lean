import Mathlib.Data.List.Forall2
import Mathlib.Data.List.Induction
import Mathlib.Data.List.Nodup

/-!
# Lists of related entries and lists by key

## Main results

* `forall₂_of_mapM_ok`, `exists_of_mapM_error`: what checks answer that all succeed, and how checks
  fail.
* `mapM_eq_some_iff`, `mapM_eq_none_iff`: what is answered for all entries together.
* `map_eq_map_of_forall₂`, `mapM_eq_mapM_of_forall₂`, `map_eq_map_of_rel`, `map_eq_map_of_keyed`:
  what related entries agree in.
* `rel_find?_of_keyed`: what is found among related entries.
* `mem_of_lookup_eq_some`: what a list holds under a key.
* `nodup_map_iff_of_nodup`: when values stay distinct of which some are changed.
* `eq_of_count_map_eq_one`: what a value that comes once belongs to.
* `nodup_eraseDups`: entries in order of first appearance.
-/

namespace ApiModel

variable {α β γ : Type}

/-! ### Related lists -/

/-- An entry of the second of two related lists is related to one of the first. -/
theorem exists_of_forall₂ {R : α → β → Prop} {l : List α} {l' : List β}
    (h : List.Forall₂ R l l') {b : β} (hb : b ∈ l') : ∃ a ∈ l, R a b := by
  induction h with
  | nil => cases hb
  | cons hab _ ih =>
    rcases List.mem_cons.mp hb with rfl | hb
    · exact ⟨_, List.mem_cons_self, hab⟩
    · obtain ⟨a, ha, h⟩ := ih hb
      exact ⟨a, List.mem_cons_of_mem _ ha, h⟩

/-- Related lists in which related entries agree in something agree in it throughout. -/
theorem map_eq_map_of_forall₂ {R : α → β → Prop} {f : α → γ} {g : β → γ} {l : List α} {l' : List β}
    (h : List.Forall₂ R l l') (hR : ∀ a ∈ l, ∀ b, R a b → f a = g b) : l.map f = l'.map g := by
  induction h with
  | nil => rfl
  | cons hab _ ih =>
    rw [List.map_cons, List.map_cons, hR _ List.mem_cons_self _ hab,
      ih fun a ha => hR a (List.mem_cons_of_mem _ ha)]

/-- Checks that all succeed answer in order. -/
theorem forall₂_of_mapM_ok {ε : Type} {f : α → Except ε β} {l : List α} {bs : List β}
    (h : l.mapM f = .ok bs) : List.Forall₂ (fun a b => f a = .ok b) l bs := by
  induction l generalizing bs with
  | nil =>
    cases h
    exact .nil
  | cons a l ih =>
    rw [List.mapM_cons] at h
    rcases ha : f a with _ | b <;> rw [ha] at h
    · cases h
    rcases hl : l.mapM f with _ | rest <;> rw [hl] at h <;> cases h
    exact .cons ha (ih hl)

/-- When checks in order fail, one of them does so in the same way. -/
theorem exists_of_mapM_error {ε : Type} {f : α → Except ε β} {l : List α} {e : ε}
    (h : l.mapM f = .error e) : ∃ a ∈ l, f a = .error e := by
  induction l with
  | nil => cases h
  | cons a l ih =>
    rw [List.mapM_cons] at h
    rcases ha : f a with e' | b <;> rw [ha] at h
    · obtain rfl : e' = e := Except.error.inj h
      exact ⟨a, List.mem_cons_self, ha⟩
    · rcases hl : l.mapM f with e' | bs <;> rw [hl] at h
      · obtain rfl : e' = e := Except.error.inj h
        obtain ⟨a', ha', herror⟩ := ih hl
        exact ⟨a', List.mem_cons_of_mem a ha', herror⟩
      · cases h

/-- Values that are all there are so in order, and none are if one is missing. -/
theorem mapM_eq_some_iff {f : α → Option β} {l : List α} {bs : List β} :
    l.mapM f = some bs ↔ l.map f = bs.map some := by
  induction l generalizing bs with
  | nil => cases bs <;> simp
  | cons a l ih =>
    rw [List.mapM_cons, List.map_cons]
    cases f a <;> cases bs <;> simp [Option.bind_eq_some_iff, ← ih, and_comm]

theorem mapM_eq_none_iff {f : α → Option β} {l : List α} :
    l.mapM f = none ↔ ∃ a ∈ l, f a = none := by
  induction l with
  | nil => simp
  | cons a l ih =>
    rw [List.mapM_cons, List.exists_mem_cons_iff, ← ih]
    cases f a <;> cases l.mapM f <;> simp

/-- Checks answer alike on related lists if they answer alike on related entries. -/
theorem mapM_eq_mapM_of_forall₂ {ε : Type} {R : α → β → Prop} {f : α → Except ε γ}
    {g : β → Except ε γ} {l : List α} {l' : List β} (h : List.Forall₂ R l l')
    (hR : ∀ a b, R a b → f a = g b) : l.mapM f = l'.mapM g := by
  induction h with
  | nil => rfl
  | cons hab _ ih => rw [List.mapM_cons, List.mapM_cons, hR _ _ hab, ih]

/-- Checks of changed entries whose answers are changed alike. -/
theorem mapM_map_of_map {ε δ : Type} {g : α → β} {f : γ → δ} {k : α → Except ε γ}
    {k' : β → Except ε δ} (h : ∀ a, k' (g a) = (k a).map f) (l : List α) :
    (l.map g).mapM k' = (l.mapM k).map (List.map f) := by
  induction l with
  | nil => rfl
  | cons a l ih =>
    rw [List.map_cons, List.mapM_cons, List.mapM_cons, h, ih]
    rcases k a with _ | b
    · rfl
    · rcases l.mapM k with _ | bs <;> rfl

theorem exists_of_mem_zipWith {g : α → β → γ} {l : List α} {l' : List β} {c : γ}
    (h : c ∈ l.zipWith g l') : ∃ a ∈ l, ∃ b ∈ l', c = g a b := by
  induction l generalizing l' with
  | nil => simp at h
  | cons a l ih =>
    cases l' with
    | nil => simp at h
    | cons b l' =>
      rw [List.zipWith_cons_cons] at h
      rcases List.mem_cons.mp h with rfl | h
      · exact ⟨a, List.mem_cons_self, b, List.mem_cons_self, rfl⟩
      · obtain ⟨a', ha, b', hb, rfl⟩ := ih h
        exact ⟨a', List.mem_cons_of_mem _ ha, b', List.mem_cons_of_mem _ hb, rfl⟩

/-- What is left alone where something is put into a list in order is as it was. -/
theorem map_zipWith_of_left {δ : Type} {g : α → β → γ} {h : γ → δ} {k : α → δ}
    (hg : ∀ a b, h (g a b) = k a) {l : List α} {l' : List β} (hlength : l.length = l'.length) :
    (l.zipWith g l').map h = l.map k := by
  induction l generalizing l' with
  | nil => rfl
  | cons a l ih =>
    cases l' with
    | nil => simp at hlength
    | cons b l' =>
      rw [List.zipWith_cons_cons, List.map_cons, List.map_cons, hg, ih (by simpa using hlength)]

/-- What is put into a list in order is read off in order. -/
theorem map_zipWith_of_right {g : α → β → γ} {h : γ → β} (hg : ∀ a b, h (g a b) = b)
    {l : List α} {l' : List β} (hlength : l.length = l'.length) :
    (l.zipWith g l').map h = l' := by
  induction l generalizing l' with
  | nil =>
    rw [List.length_nil, eq_comm, List.length_eq_zero_iff] at hlength
    rw [hlength]
    rfl
  | cons a l ih =>
    cases l' with
    | nil => simp at hlength
    | cons b l' =>
      rw [List.zipWith_cons_cons, List.map_cons, hg, ih (by simpa using hlength)]

/-- Related lists stay related when something is put into the second one in order. -/
theorem forall₂_zipWith {R : α → β → Prop} {g : β → γ → β} (hg : ∀ a b c, R a b → R a (g b c))
    {l : List α} {l' : List β} {l'' : List γ} (h : List.Forall₂ R l l')
    (hlength : l'.length = l''.length) : List.Forall₂ R l (l'.zipWith g l'') := by
  induction h generalizing l'' with
  | nil => exact .nil
  | cons hab _ ih =>
    cases l'' with
    | nil => simp at hlength
    | cons c l'' => exact .cons (hg _ _ c hab) (ih (by simpa using hlength))

/-- A function that leaves every entry as it is leaves the list as it is. -/
theorem map_eq_self {l : List α} {f : α → α} (h : ∀ a ∈ l, f a = a) : l.map f = l :=
  (List.map_congr_left h).trans (List.map_id' l)

/-- Values that are distinct stay so when some of them are changed exactly if no changed one is met
again. -/
theorem nodup_map_iff_of_nodup [DecidableEq β] {f g : α → β} {l : List α} (h : (l.map g).Nodup) :
    (l.map f).Nodup ↔ ∀ a ∈ l, f a = g a ∨ (l.map f).count (f a) = 1 := by
  refine ⟨fun hf a ha => .inr (List.count_eq_one_of_mem hf (List.mem_map_of_mem ha)), fun hl => ?_⟩
  rw [List.nodup_iff_count_le_one]
  intro b
  by_cases hchanged : ∃ a ∈ l, f a = b ∧ f a ≠ g a
  · obtain ⟨a, ha, rfl, hne⟩ := hchanged
    exact Nat.le_of_eq ((hl a ha).resolve_left hne)
  · have hkept (a : α) (ha : a ∈ l) (hb : f a = b) : g a = b := by
      by_contra hne
      exact hchanged ⟨a, ha, hb, fun heq => hne (heq.symm.trans hb)⟩
    refine Nat.le_trans ?_ (List.nodup_iff_count_le_one.mp h b)
    rw [List.count_eq_countP, List.count_eq_countP, List.countP_map, List.countP_map]
    exact List.countP_mono_left fun a ha hb => by simpa using hkept a ha (by simpa using hb)

/-- Entries that agree in a value that comes once are one entry. -/
theorem eq_of_count_map_eq_one [DecidableEq β] {f : α → β} {l : List α} {a b : α} (ha : a ∈ l)
    (hb : b ∈ l) (hf : f b = f a) (h : (l.map f).count (f a) = 1) : a = b := by
  obtain ⟨before, after, rfl⟩ := List.append_of_mem ha
  rw [List.map_append, List.map_cons, List.count_append, List.count_cons_self] at h
  have hnone {l' : List α} (hl' : (l'.map f).count (f a) = 0) : b ∉ l' := by
    intro hmem
    have hpos : 0 < (l'.map f).count (f b) := List.count_pos_iff.mpr (List.mem_map_of_mem hmem)
    rw [hf] at hpos
    omega
  rcases List.mem_append.mp hb with hb | hb
  · exact absurd hb (hnone (by omega))
  rcases List.mem_cons.mp hb with hb | hb
  · exact hb.symm
  · exact absurd hb (hnone (by omega))

/-- Related values that agree in something when they are there. -/
theorem map_eq_map_of_rel {R : α → β → Prop} {f : α → γ} {g : β → γ} {o : Option α} {o' : Option β}
    (h : Option.Rel R o o') (hR : ∀ a ∈ o, ∀ b, R a b → f a = g b) : o.map f = o'.map g := by
  cases h with
  | none => rfl
  | some h => rw [Option.map_some, Option.map_some, hR _ rfl _ h]

theorem rightUnique_optionRel {R : α → β → Prop} (hR : Relator.RightUnique R) :
    Relator.RightUnique (Option.Rel R) := by
  rintro _ _ _ (h | _) h'
  · cases h' with
    | some h' => rw [hR h h']
  · cases h'
    rfl

/-- Related values stay related when they are changed. -/
theorem rel_map_of_rel {δ : Type} {R : α → β → Prop} {S : γ → δ → Prop} {f : α → γ} {g : β → δ}
    {o : Option α} {o' : Option β} (h : Option.Rel R o o') (hR : ∀ a b, R a b → S (f a) (g b)) :
    Option.Rel S (o.map f) (o'.map g) := by
  cases h with
  | none => exact .none
  | some h => exact .some (hR _ _ h)

/-- The first of two values that is there is related to the first of two related ones. -/
theorem rel_or_of_rel {R : α → β → Prop} {o p : Option α} {o' p' : Option β}
    (ho : Option.Rel R o o') (hp : Option.Rel R p p') : Option.Rel R (o.or p) (o'.or p') := by
  cases ho with
  | none => exact hp
  | some ho => exact .some ho

/-- Conditions that agree on a list find the same in it. -/
theorem find?_eq_find?_of_forall_mem {p q : α → Bool} {l : List α} (h : ∀ a ∈ l, p a = q a) :
    l.find? p = l.find? q := by
  induction l with
  | nil => rfl
  | cons a l ih =>
    obtain ⟨ha, hl⟩ := List.forall_mem_cons.mp h
    rw [List.find?_cons, List.find?_cons, ha, ih hl]

/-! ### Entries by key -/

/-- Entries under one key whose values are related. -/
inductive Keyed (R : α → β → Prop) : String × α → String × β → Prop
  | mk (key : String) {a : α} {b : β} (h : R a b) : Keyed R (key, a) (key, b)

/-- Entries under the same keys whose related values agree in something. -/
theorem map_eq_map_of_keyed {R : α → β → Prop} {f : α → γ} {g : β → γ} {l : List (String × α)}
    {l' : List (String × β)} (h : List.Forall₂ (Keyed R) l l')
    (hR : ∀ a ∈ l.map Prod.snd, ∀ b, R a b → f a = g b) :
    l.map (Prod.map id f) = l'.map (Prod.map id g) :=
  map_eq_map_of_forall₂ h fun e he e' hee' => by
    cases hee' with
    | mk key h => rw [Prod.map, Prod.map, hR _ (List.mem_map_of_mem he) _ h]

/-- What is found by its key is found among related entries, too. -/
theorem rel_find?_of_keyed {R : α → β → Prop} {l : List (String × α)} {l' : List (String × β)}
    (h : List.Forall₂ (Keyed R) l l') (q : String → Bool) :
    Option.Rel (Keyed R) (l.find? fun e => q e.1) (l'.find? fun e => q e.1) := by
  induction h with
  | nil => exact .none
  | cons hab _ ih =>
    obtain ⟨key, hab⟩ := hab
    rw [List.find?_cons, List.find?_cons]
    cases q key with
    | true => exact .some (.mk key hab)
    | false => exact ih

section Lookup

variable [BEq α] [LawfulBEq α] {l : List (α × β)} {k : α} {b : β}

theorem mem_of_lookup_eq_some (h : l.lookup k = some b) : (k, b) ∈ l := by
  obtain ⟨before, after, rfl, -⟩ := List.lookup_eq_some_iff.mp h
  simp

omit [LawfulBEq α] in
theorem lookup_map_snd (f : β → γ) (k : α) (l : List (α × β)) :
    (l.map (Prod.map id f)).lookup k = (l.lookup k).map f := by
  induction l with
  | nil => rfl
  | cons e l ih =>
    rw [List.map_cons, Prod.map, id, List.lookup_cons, List.lookup_cons, ih]
    split <;> rfl

theorem lookup_eq_none_iff_notMem : l.lookup k = none ↔ k ∉ l.map Prod.fst := by
  rw [List.lookup_eq_none_iff]
  constructor
  · intro h hk
    obtain ⟨e, he, rfl⟩ := List.mem_map.mp hk
    simpa using h e he
  · intro h e he
    have hne : k ≠ e.1 := fun heq => h (heq ▸ List.mem_map_of_mem he)
    simpa using hne

/-- Where no key comes twice, every entry is found under its key. -/
theorem lookup_eq_some_of_mem (hnodup : (l.map Prod.fst).Nodup) (h : (k, b) ∈ l) :
    l.lookup k = some b := by
  induction l with
  | nil => cases h
  | cons e l ih =>
    rw [List.map_cons, List.nodup_cons] at hnodup
    rcases List.mem_cons.mp h with rfl | h
    · exact List.lookup_cons_self
    · have hne : k ≠ e.1 := fun heq => hnodup.1 (heq ▸ List.mem_map_of_mem h)
      rw [List.lookup_cons, beq_eq_false_iff_ne.mpr hne]
      exact ih hnodup.2 h

/-- Where no key comes twice, the order does not change what is found under a key. -/
theorem lookup_eq_of_perm {m : List (α × β)} (hperm : l.Perm m) (h : (l.map Prod.fst).Nodup)
    (k : α) : m.lookup k = l.lookup k := by
  cases hl : l.lookup k with
  | none =>
    rw [lookup_eq_none_iff_notMem] at hl ⊢
    exact fun hmem => hl ((hperm.map Prod.fst).mem_iff.mpr hmem)
  | some b =>
    exact lookup_eq_some_of_mem ((hperm.map Prod.fst).nodup_iff.mp h)
      (hperm.mem_iff.mp (mem_of_lookup_eq_some hl))

theorem mem_keys_of_lookup_eq_some (h : l.lookup k = some b) : k ∈ l.map Prod.fst :=
  List.mem_map_of_mem (mem_of_lookup_eq_some h)

end Lookup

/-! ### Entries in order of first appearance -/

section EraseDups

variable [BEq α] [LawfulBEq α] (l : List α)

/-- A further entry comes last, unless it is there. -/
theorem eraseDups_append_singleton (a : α) [Decidable (a ∈ l)] :
    (l ++ [a]).eraseDups = if a ∈ l then l.eraseDups else l.eraseDups ++ [a] := by
  rw [List.eraseDups_append, List.removeAll]
  split
  next h => simp [h]
  next h => simp [h, List.eraseDups_cons]

theorem nodup_eraseDups : l.eraseDups.Nodup := by
  classical
  induction l using List.reverseRecOn with
  | nil => exact List.nodup_nil
  | append_singleton l a ih =>
    rw [eraseDups_append_singleton]
    split
    · exact ih
    next h =>
      rw [← List.concat_eq_append]
      exact ih.concat (by simpa using h)

end EraseDups

end ApiModel
