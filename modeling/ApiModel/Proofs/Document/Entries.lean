import ApiModel.Document.Entries
import ApiModel.Proofs.Lists

/-!
# Entries that are set one after the other

A key stands where it has been set first, and has the value to which it has been set last.

## Main definitions

* `SameEntries`: the entries of a map in another order.

## Main results

* `keys_setEntry`, `lookup_setEntry`, `forall_setEntry`, `setEntry_map`: what setting one key does.
* `mem_keys_foldl_setEntry`, `forall_foldl_setEntry`: what setting many keys does.
* `keys_ofEntries`: the keys come in the order in which they have been set first.
* `lookup_ofEntries`: a key has the value to which it has been set last.
* `ofEntries_of_nodup`: where no key is set twice, the entries are what has been set.
* `forall_ofEntries`: the values are those that have been set.
-/

namespace ApiModel

variable {α β : Type}

/-! ### One key -/

theorem keys_setEntry (key : String) (value : α) (l : List (String × α)) :
    (setEntry key value l).map Prod.fst =
      if key ∈ l.map Prod.fst then l.map Prod.fst else l.map Prod.fst ++ [key] := by
  induction l with
  | nil => rfl
  | cons e rest ih =>
    obtain ⟨k, v⟩ := e
    rw [setEntry]
    split
    next hkey => simp [hkey]
    next hkey =>
      rw [List.map_cons, ih]
      have hmem : key ∈ ((k, v) :: rest).map Prod.fst ↔ key ∈ rest.map Prod.fst := by
        simp [Ne.symm hkey]
      simp only [hmem]
      split <;> rfl

theorem lookup_cons_eq_ite (k : String) (e : String × α) (l : List (String × α)) :
    (e :: l).lookup k = if k = e.1 then some e.2 else l.lookup k := by
  rw [List.lookup_cons]
  split
  next h => rw [if_pos (beq_iff_eq.mp h)]
  next h => rw [if_neg (beq_eq_false_iff_ne.mp h)]

theorem lookup_setEntry (key k : String) (value : α) (l : List (String × α)) :
    (setEntry key value l).lookup k = if k = key then some value else l.lookup k := by
  induction l with
  | nil => exact lookup_cons_eq_ite k (key, value) []
  | cons e rest ih =>
    obtain ⟨k', v⟩ := e
    rw [setEntry]
    split
    next hkey =>
      subst hkey
      rw [lookup_cons_eq_ite, lookup_cons_eq_ite]
      split <;> rfl
    next hkey =>
      rw [lookup_cons_eq_ite, lookup_cons_eq_ite, ih]
      dsimp only
      by_cases h : k = k'
      · rw [if_pos h, if_pos h, if_neg (h ▸ hkey)]
      · rw [if_neg h, if_neg h]

theorem mem_keys_setEntry {k : String} (key : String) (value : α) (l : List (String × α)) :
    k ∈ (setEntry key value l).map Prod.fst ↔ k = key ∨ k ∈ l.map Prod.fst := by
  rw [keys_setEntry]
  split
  next h => exact ⟨.inr, fun hk => hk.elim (fun heq => heq ▸ h) id⟩
  next => rw [List.mem_append, List.mem_singleton, or_comm]

theorem forall_setEntry {Q : α → Prop} {key : String} {value : α} {l : List (String × α)}
    (hvalue : Q value) (hl : ∀ e ∈ l, Q e.2) : ∀ e ∈ setEntry key value l, Q e.2 := by
  induction l with
  | nil => simpa [setEntry] using hvalue
  | cons e rest ih =>
    obtain ⟨hfirst, hrest⟩ := List.forall_mem_cons.mp hl
    obtain ⟨k, v⟩ := e
    rw [setEntry]
    split
    · exact List.forall_mem_cons.mpr ⟨hvalue, hrest⟩
    · exact List.forall_mem_cons.mpr ⟨hfirst, ih hrest⟩

theorem setEntry_map (f : α → β) (key : String) (value : α) (l : List (String × α)) :
    setEntry key (f value) (l.map (Prod.map id f)) =
      (setEntry key value l).map (Prod.map id f) := by
  induction l with
  | nil => rfl
  | cons e rest ih =>
    rw [List.map_cons, Prod.map, id, setEntry, setEntry, ih]
    split <;> rfl

/-! ### Many keys -/

/-- Keys are set to values that may hang on what has been set before. -/
theorem mem_keys_foldl_setEntry {k : String} (key : β → String)
    (value : List (String × α) → β → α) (l : List β) (acc : List (String × α)) :
    k ∈ (l.foldl (fun acc b => setEntry (key b) (value acc b) acc) acc).map Prod.fst ↔
      k ∈ l.map key ∨ k ∈ acc.map Prod.fst := by
  induction l generalizing acc with
  | nil => simp
  | cons b rest ih =>
    rw [List.foldl_cons, ih, mem_keys_setEntry, List.map_cons, List.mem_cons, or_assoc,
      or_left_comm]

theorem forall_foldl_setEntry {Q : α → Prop} {key : β → String}
    {value : List (String × α) → β → α} {l : List β} {acc : List (String × α)}
    (hvalue : ∀ acc, ∀ b ∈ l, Q (value acc b)) (hacc : ∀ e ∈ acc, Q e.2) :
    ∀ e ∈ l.foldl (fun acc b => setEntry (key b) (value acc b) acc) acc, Q e.2 := by
  induction l generalizing acc with
  | nil => exact hacc
  | cons b rest ih =>
    rw [List.foldl_cons]
    exact ih (fun acc b' hb' => hvalue acc b' (List.mem_cons_of_mem _ hb'))
      (forall_setEntry (hvalue acc b List.mem_cons_self) hacc)

theorem ofEntries_append (l l' : List (String × α)) :
    ofEntries (l ++ l') = l'.foldl (fun acc e => setEntry e.1 e.2 acc) (ofEntries l) :=
  List.foldl_append

theorem ofEntries_append_singleton (l : List (String × α)) (e : String × α) :
    ofEntries (l ++ [e]) = setEntry e.1 e.2 (ofEntries l) :=
  ofEntries_append l [e]

/-- The keys come in the order in which they have been set first. -/
theorem keys_ofEntries (l : List (String × α)) :
    (ofEntries l).map Prod.fst = (l.map Prod.fst).eraseDups := by
  induction l using List.reverseRecOn with
  | nil => rfl
  | append_singleton l e ih =>
    rw [ofEntries_append_singleton, keys_setEntry, ih, List.map_append, List.map_singleton,
      eraseDups_append_singleton]
    simp only [List.mem_eraseDups]

/-- A key has the value to which it has been set last. -/
theorem lookup_ofEntries (l : List (String × α)) (k : String) :
    (ofEntries l).lookup k = l.reverse.lookup k := by
  induction l using List.reverseRecOn with
  | nil => rfl
  | append_singleton l e ih =>
    rw [ofEntries_append_singleton, lookup_setEntry, ih, List.reverse_append,
      List.reverse_singleton, List.singleton_append, lookup_cons_eq_ite]

theorem nodup_keys_ofEntries (l : List (String × α)) : ((ofEntries l).map Prod.fst).Nodup := by
  rw [keys_ofEntries]
  exact nodup_eraseDups _

/-- A key that has not been set comes last. -/
theorem setEntry_of_notMem {key : String} {l : List (String × α)} (h : key ∉ l.map Prod.fst)
    (value : α) : setEntry key value l = l ++ [(key, value)] := by
  induction l with
  | nil => rfl
  | cons e rest ih =>
    rw [List.map_cons, List.mem_cons, not_or] at h
    rw [setEntry, if_neg (Ne.symm h.1), ih h.2, List.cons_append]

/-- Where no key is set twice, the entries are what has been set. -/
theorem ofEntries_of_nodup {l : List (String × α)} (h : (l.map Prod.fst).Nodup) :
    ofEntries l = l := by
  induction l using List.reverseRecOn with
  | nil => rfl
  | append_singleton l e ih =>
    rw [List.map_append, List.nodup_append] at h
    have hnew : e.1 ∉ l.map Prod.fst := fun hmem => h.2.2 _ hmem e.1 (by simp) rfl
    rw [ofEntries_append_singleton, ih h.1, setEntry_of_notMem hnew]

/-- The values of a map are those that have been set. -/
theorem forall_ofEntries {Q : α → Prop} {l : List (String × α)} (h : ∀ e ∈ l, Q e.2) :
    ∀ e ∈ ofEntries l, Q e.2 :=
  forall_foldl_setEntry (fun _ => h) nofun

/-! ### Maps in another order -/

section Order

variable {R : α → β → Prop} {l : List (String × α)} {l' : List (String × β)}

/-- The entries of a map in another order, with related values. -/
def SameEntries (R : α → β → Prop) (l : List (String × α)) (l' : List (String × β)) : Prop :=
  ∃ m, l.Perm m ∧ List.Forall₂ (Keyed R) m l'

theorem SameEntries.nil : SameEntries R [] [] := ⟨[], .nil, .nil⟩

theorem keys_eq_of_keyed (h : List.Forall₂ (Keyed R) l l') :
    l'.map Prod.fst = l.map Prod.fst := by
  induction h with
  | nil => rfl
  | cons hkeyed _ ih =>
    obtain ⟨key, _⟩ := hkeyed
    rw [List.map_cons, List.map_cons, ih]

end Order

end ApiModel
