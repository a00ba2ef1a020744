import ApiModel.Json.Reader
import ApiModel.Proofs.Document.Entries
import ApiModel.Proofs.Document.Finite
import ApiModel.Proofs.Json.Fields

/-!
# Reading values that have been written

A value that stands for a record has the fields that have been given. So reading the record again
finds them under their names, in whichever order they have been written.

## Main definitions

* `Value.toDatum`: a value as it stands.
* `written`: the fields of a record of which some are missing.
* `Slots.Holds`: a record in which the fields are found that have been written.

## Main results

* `buffer_toNode`: a value is read as it stands.
* `Slots.exists_named`: what has been written is found.
* `toValue_toDatum`: what has been read as a plain value is read again as it is.
-/

namespace ApiModel

open Json

namespace Json

/-! ### Values as they stand -/

mutual

/-- A value as it stands. -/
def Value.toDatum : Value → Datum
  | .null => .null
  | .bool b => .bool b
  | .number (.int n) => .whole (n < 0) n.natAbs
  | .number (.float x) => .float x
  | .text s => .text s
  | .array items => .list (toItems items)
  | .object fields => .map (toPairs fields)

/-- Values as they stand. -/
def toItems : List Value → List Datum
  | [] => []
  | v :: rest => v.toDatum :: toItems rest

/-- Fields as they stand. -/
def toPairs : List (String × Value) → List (Datum × Datum)
  | [] => []
  | (k, v) :: rest => (.text k, v.toDatum) :: toPairs rest

end

theorem toItems_eq (items : List Value) : toItems items = items.map Value.toDatum := by
  induction items with
  | nil => rfl
  | cons v rest ih => rw [toItems, ih, List.map_cons]

theorem toPairs_eq (fields : List (String × Value)) :
    toPairs fields = fields.map fun f => (.text f.1, f.2.toDatum) := by
  induction fields with
  | nil => rfl
  | cons f rest ih => rw [toPairs, ih, List.map_cons]

theorem toNodes_eq (items : List Value) : toNodes items = items.map Value.toNode := by
  induction items with
  | nil => rfl
  | cons v rest ih => rw [toNodes, ih, List.map_cons]

theorem toEntries_eq (fields : List (String × Value)) :
    toEntries fields = fields.map fun f => (.scalar (textScalar (some f.1)), f.2.toNode) := by
  induction fields with
  | nil => rfl
  | cons f rest ih => rw [toEntries, ih, List.map_cons]

theorem depth_le_of_mem_items {v : Value} {items : List Value} (h : v ∈ items) :
    v.depth ≤ depthOfItems items := by
  induction items with
  | nil => cases h
  | cons w rest ih =>
    rw [depthOfItems]
    rcases List.mem_cons.mp h with rfl | h
    · exact Nat.le_max_left _ _
    · exact (ih h).trans (Nat.le_max_right _ _)

theorem depth_le_of_mem_fields {f : String × Value} {fields : List (String × Value)}
    (h : f ∈ fields) : f.2.depth ≤ depthOfFields fields := by
  induction fields with
  | nil => cases h
  | cons g rest ih =>
    rw [depthOfFields]
    rcases List.mem_cons.mp h with rfl | h
    · exact Nat.le_max_left _ _
    · exact (ih h).trans (Nat.le_max_right _ _)

/-- Steps that all succeed succeed together. -/
theorem mapM_eq_pure {m : Type → Type} [Monad m] [LawfulMonad m] {α β : Type} {f : α → m β}
    {l : List α} {r : List β} (h : List.Forall₂ (fun a b => f a = pure b) l r) :
    l.mapM f = pure r := by
  induction h with
  | nil => rfl
  | cons hab _ ih => rw [List.mapM_cons, hab, ih, pure_bind, pure_bind]

theorem buffer_list (n : Nat) (items : List Node) :
    (Node.list false items).buffer (n + 1) = (do return .list (← items.mapM (Node.buffer n))) := rfl

theorem buffer_map (n : Nat) (entries : List (Node × Node)) :
    (Node.map false entries).buffer (n + 1) = (do
      return .map (← entries.mapM fun e => do return (← e.1.buffer n, ← e.2.buffer n))) := rfl

/-- A value is read as it stands. -/
theorem buffer_toNode {v : Value} {n : Nat} (h : v.depth ≤ n) :
    v.toNode.buffer n = pure v.toDatum := by
  induction n generalizing v with
  | zero =>
    rcases v with _ | _ | (_ | _) | _ | items | fields
    case array => exact absurd h (Nat.not_succ_le_zero _)
    case object => exact absurd h (Nat.not_succ_le_zero _)
    all_goals rfl
  | succ n ih =>
    rcases v with _ | _ | (_ | _) | _ | items | fields
    case array =>
      have hitem (v : Value) (hv : v ∈ items) : v.toNode.buffer n = pure v.toDatum :=
        ih ((depth_le_of_mem_items hv).trans (Nat.le_of_succ_le_succ h))
      rw [Value.toNode, buffer_list, toNodes_eq, mapM_eq_pure (r := toItems items), pure_bind]
      · rfl
      rw [toItems_eq, List.forall₂_map_left_iff, List.forall₂_map_right_iff, List.forall₂_same]
      exact hitem
    case object =>
      have hkey (k : String) : (Node.scalar (textScalar (some k))).buffer n = pure (.text k) := by
        cases n <;> rfl
      have hfield (f : String × Value) (hf : f ∈ fields) : f.2.toNode.buffer n = pure f.2.toDatum :=
        ih ((depth_le_of_mem_fields hf).trans (Nat.le_of_succ_le_succ h))
      rw [Value.toNode, buffer_map, toEntries_eq, mapM_eq_pure (r := toPairs fields), pure_bind]
      · rfl
      rw [toPairs_eq, List.forall₂_map_left_iff, List.forall₂_map_right_iff, List.forall₂_same]
      intro f hf
      rw [hkey, hfield f hf, pure_bind, pure_bind]
    all_goals rfl

/-! ### Plain values -/

theorem toValues_eq_some_iff {ds : List Datum} {vs : List Value} :
    Datum.toValues ds = some vs ↔ List.Forall₂ (fun d v => d.toValue = some v) ds vs := by
  induction ds generalizing vs with
  | nil => cases vs <;> simp [Datum.toValues]
  | cons d rest ih =>
    cases vs with
    | nil => simp [Datum.toValues, Option.bind_eq_some_iff]
    | cons v vs =>
      rw [List.forall₂_cons, ← ih, Datum.toValues]
      simp [Option.bind_eq_some_iff]

theorem toFields_eq_some_iff {entries : List (Datum × Datum)} {fields : List (String × Value)} :
    Datum.toFields entries = some fields ↔
      List.Forall₂ (fun e f => e.1 = .text f.1 ∧ e.2.toValue = some f.2) entries fields := by
  induction entries generalizing fields with
  | nil => cases fields <;> simp [Datum.toFields]
  | cons e rest ih =>
    obtain ⟨k, v⟩ := e
    cases fields with
    | nil => simp [Datum.toFields, Option.bind_eq_some_iff]
    | cons f fields =>
      obtain ⟨key, value⟩ := f
      rw [List.forall₂_cons, ← ih, Datum.toFields]
      cases k <;> simp [Datum.asText, Option.bind_eq_some_iff, and_assoc, and_comm,
        and_left_comm]

theorem toValue_int (n : Int) : (Value.int n).toDatum.toValue = some (Value.int n) := by
  have hn : (if decide (n < 0) = true then -(n.natAbs : Int) else n.natAbs) = n := by
    simp only [decide_eq_true_eq]
    split <;> omega
  rw [Value.int, Value.toDatum, Datum.toValue, hn]
  rfl

/-- What has been read as a plain value is read again as it is. -/
theorem toValue_toDatum {d : Datum} {v : Value} (hd : d.Finite) (h : d.toValue = some v) :
    v.toDatum.toValue = some v := by
  induction hd generalizing v with
  | null | bool | text =>
    cases h
    rfl
  | whole minus magnitude =>
    cases h
    exact toValue_int _
  | float hx =>
    cases h
    simp [Value.float, hx, Value.toDatum, Datum.toValue]
  | list _ ih =>
    obtain ⟨vs, hvs, rfl⟩ := Option.map_eq_some_iff.mp h
    have hagain : Datum.toValues (toItems vs) = some vs := by
      rw [toItems_eq, toValues_eq_some_iff, List.forall₂_map_left_iff, List.forall₂_same]
      intro v hv
      obtain ⟨d, hd, hdv⟩ := exists_of_forall₂ (toValues_eq_some_iff.mp hvs) hv
      exact ih d hd hdv
    rw [Value.toDatum, Datum.toValue, hagain]
    rfl
  | map _ _ _ ih =>
    obtain ⟨fs, hfs, rfl⟩ := Option.map_eq_some_iff.mp h
    have hagain : Datum.toFields (toPairs (sortFields fs)) = some (sortFields fs) := by
      rw [toPairs_eq, toFields_eq_some_iff, List.forall₂_map_left_iff, List.forall₂_same]
      intro f hf
      obtain ⟨e, he, -, hef⟩ := exists_of_forall₂ (toFields_eq_some_iff.mp hfs)
        (mem_of_mem_sortFields hf)
      exact ⟨rfl, ih e he hef⟩
    rw [Value.ofFields, Value.toDatum, Datum.toValue, hagain, Option.map_some, Value.ofFields,
      sortFields_of_inOrder (inOrder_sortFields fs)]

/-- Only null stands for null where all numbers are finite. -/
theorem toValue_ne_null {d : Datum} {v : Value} (hd : d.Finite) (hnull : d ≠ .null)
    (h : d.toValue = some v) : v ≠ .null := by
  cases hd with
  | null => exact absurd rfl hnull
  | float hx =>
    cases h
    rw [Value.float, if_pos hx]
    exact nofun
  | list =>
    obtain ⟨vs, -, rfl⟩ := Option.map_eq_some_iff.mp h
    exact nofun
  | map =>
    obtain ⟨fs, -, rfl⟩ := Option.map_eq_some_iff.mp h
    exact nofun
  | _ =>
    cases h
    exact nofun

end Json

/-! ### Fields that have been written -/

/-- The fields of a record, of which some are missing. -/
def written (entries : List (String × Option Value)) : List (String × Value) :=
  entries.filterMap fun e => e.2.map (e.1, ·)

/-- A list that is written only when it is not empty. -/
def listed {α : Type} (encode : List α → Value) (items : List α) : Option Value :=
  if items.isEmpty then none else some (encode items)

section Written

variable {α : Type} {entries : List (String × Option Value)}

theorem written_given (key : String) (encode : α → Value) (o : Option α) :
    given key encode o = written [(key, o.map encode)] := by
  cases o <;> rfl

theorem written_single (key : String) (v : Value) : [(key, v)] = written [(key, some v)] := rfl

theorem written_cons (key : String) (v : Value) (entries : List (String × Option Value)) :
    (key, v) :: written entries = written ((key, some v) :: entries) := rfl

theorem written_nonempty (key : String) (encode : List α → Value) (items : List α) :
    nonempty key encode items = written [(key, listed encode items)] := by
  cases items <;> rfl

theorem written_append (entries entries' : List (String × Option Value)) :
    written (entries ++ entries') = written entries ++ written entries' :=
  List.filterMap_append

theorem keys_written (entries : List (String × Option Value)) :
    ((written entries).map Prod.fst).Sublist (entries.map Prod.fst) := by
  induction entries with
  | nil => exact .refl _
  | cons e rest ih =>
    obtain ⟨key, _ | v⟩ := e
    · exact ih.cons key
    · exact ih.cons_cons key

/-- A field has been written with what has been given, if anything has. -/
theorem lookup_written (h : (entries.map Prod.fst).Nodup) {e : String × Option Value}
    (he : e ∈ entries) : (written entries).lookup e.1 = e.2 := by
  induction entries with
  | nil => cases he
  | cons f rest ih =>
    obtain ⟨hfresh, hrest⟩ := List.nodup_cons.mp h
    have hcons : written (f :: rest) = (f.2.map (f.1, ·)).toList ++ written rest := by
      obtain ⟨key, _ | v⟩ := f <;> rfl
    rcases List.mem_cons.mp he with rfl | he
    · obtain ⟨key, _ | v⟩ := e
      · exact lookup_eq_none_iff_notMem.mpr fun hmem => hfresh ((keys_written rest).subset hmem)
      · exact (lookup_cons_eq_ite key (key, v) _).trans (if_pos rfl)
    · have hne : e.1 ≠ f.1 := fun heq => hfresh (heq ▸ List.mem_map_of_mem he)
      rw [← ih hrest he, hcons]
      obtain ⟨key, _ | v⟩ := f
      · rfl
      · exact (lookup_cons_eq_ite e.1 (key, v) _).trans (if_neg hne)

end Written

namespace Slots

variable {σ β : Type} {m : Type → Type} [Alternative m] {conv : Value → σ}
  {entries : List (String × Option Value)} {slots : Slots σ}

/-- The fields are found that have been written. -/
structure Holds (conv : Value → σ) (entries : List (String × Option Value)) (slots : Slots σ) :
    Prop where
  byName : slots.byName = true
  lookup : ∀ e ∈ entries, slots.given.lookup e.1 = e.2.map conv

namespace Holds

variable (h : slots.Holds conv entries) {field : String} {v : Value} {o : Option Value}

include h

theorem required (he : (field, some v) ∈ entries) (read : σ → m β) :
    slots.required field read = read (conv v) := by
  rw [Slots.required, h.lookup _ he]
  rfl

theorem optional (he : (field, o) ∈ entries) (read : σ → m (Option β)) :
    slots.optional field read = (o.elim (pure none) fun v => read (conv v)) := by
  rw [Slots.optional, h.lookup _ he, h.byName]
  cases o <;> rfl

theorem defaulted (he : (field, o) ∈ entries) (value : β) (read : σ → m β) :
    slots.defaulted field value read = (o.elim (pure value) fun v => read (conv v)) := by
  rw [Slots.defaulted, h.lookup _ he]
  cases o <;> rfl

end Holds

/-- The fields of a record that has been written are found under their names. -/
theorem exists_named (conv : Value → σ) {fields keys : List String}
    (hkeys : entries.map Prod.fst = keys) (hnodup : keys.Nodup) (hfields : ∀ k ∈ keys, k ∈ fields) :
    ∃ slots, Slots.named fields
        ((sortFields (written entries)).map fun f => (some f.1, conv f.2)) = some slots ∧
      slots.Holds conv entries := by
  subst hkeys
  let sorted : List (String × Value) := sortFields (written entries)
  have hwritten : ((written entries).map Prod.fst).Nodup := (keys_written entries).nodup hnodup
  have hmem (f : String × Value) (hf : f ∈ sorted) : f.1 ∈ fields :=
    hfields _ ((keys_written entries).subset (List.mem_map_of_mem (mem_of_mem_sortFields hf)))
  have hknown : (sorted.map fun f => (some f.1, conv f.2)).filterMap (fun e =>
      e.1.bind fun k => if fields.contains k then some (k, e.2) else none) =
      sorted.map fun f => (f.1, conv f.2) := by
    rw [List.filterMap_map, ← List.filterMap_eq_map]
    refine List.filterMap_congr fun f hf => ?_
    simp [hmem f hf]
  have hkeys : ((sorted.map fun f => (f.1, conv f.2)).map Prod.fst).Nodup := by
    rw [List.map_map]
    exact (inOrder_sortFields _).nodup
  refine ⟨⟨true, sorted.map fun f => (f.1, conv f.2)⟩, ?_, rfl, fun e he => ?_⟩
  · have hnamed : Slots.named fields (sorted.map fun f => (some f.1, conv f.2)) =
        if ((sorted.map fun f => (f.1, conv f.2)).map Prod.fst).Nodup then
          some ⟨true, sorted.map fun f => (f.1, conv f.2)⟩ else none := by
      rw [← hknown]
      rfl
    rw [hnamed, if_pos hkeys]
  · refine (lookup_map_snd conv e.1 sorted).trans ?_
    rw [lookup_sortFields hwritten, lookup_written hnodup he]

end Slots

end ApiModel
