import ApiModel.Contract.Encode
import ApiModel.Contract.Decode
import ApiModel.Proofs.Decimal.Finite
import ApiModel.Proofs.Json.Writing

/-!
# Readers that restore what has been written

A reader restores what is written if it finds in it what some reader had found before, up to a
relation. Readers are put together from smaller ones, and what is written likewise, so it has to be
shown for the smallest readers only, and for each record that its fields have been written.

## Main definitions

* `Decode.Restores`, `Read.Restores`: what has been found in a plain document is found again in what
  is written.

## Main results

* `Decode.Restores.list`, `Decode.Restores.map`, `Decode.restores_record`: how readers of content
  are put together.
* `Read.Restores.list`, `Read.Restores.map`, `Read.restores_record`, `Read.restores_buffered`: how
  direct readers are put together.
-/

namespace ApiModel

open Json

variable {α β : Type}

theorem exists_forall₂ {P : α → β → Prop} {l : List α} (h : ∀ a ∈ l, ∃ b, P a b) :
    ∃ r, List.Forall₂ P l r := by
  induction l with
  | nil => exact ⟨[], .nil⟩
  | cons a l ih =>
    obtain ⟨hfirst, hrest⟩ := List.forall_mem_cons.mp h
    obtain ⟨b, hb⟩ := hfirst
    obtain ⟨r, hr⟩ := ih hrest
    exact ⟨b :: r, .cons hb hr⟩

theorem forall₂_and_mem {P : α → β → Prop} {l : List α} {r : List β} (h : List.Forall₂ P l r) :
    List.Forall₂ (fun a b => a ∈ l ∧ P a b) l r := by
  induction h with
  | nil => exact .nil
  | cons hab _ ih =>
    exact .cons ⟨List.mem_cons_self, hab⟩
      (ih.imp fun _ _ h => ⟨List.mem_cons_of_mem _ h.1, h.2⟩)

theorem eq_of_rel_eq {o o' : Option α} (h : Option.Rel Eq o o') : o' = o := by
  cases h with
  | none => rfl
  | some h => rw [h]

/-- What is written of a map, and what it stands for in the order of its keys. -/
theorem exists_sorted {Q R : α → α → Prop} (write : α → Value) {l : List (String × α)}
    (hnodup : (l.map Prod.fst).Nodup) (h : ∀ e ∈ l, ∃ a', R e.2 a' ∧ Q e.2 a') :
    ∃ l', SameEntries R l l' ∧ ofEntries l' = l' ∧
      ∃ m, mapToJson write l = .object (m.map (Prod.map id write)) ∧
        List.Forall₂ (Keyed Q) m l' := by
  have hperm := (perm_sortFields hnodup).symm
  have hsorted (e : String × α) (he : e ∈ sortFields l) :
      ∃ e', Keyed R e e' ∧ Keyed Q e e' := by
    obtain ⟨a', hR, hQ⟩ := h e (hperm.mem_iff.mpr he)
    exact ⟨(e.1, a'), .mk e.1 hR, .mk e.1 hQ⟩
  obtain ⟨l', hl'⟩ := exists_forall₂ hsorted
  have hkeyed : List.Forall₂ (Keyed R) (sortFields l) l' := hl'.imp fun _ _ h => h.1
  refine ⟨l', ⟨sortFields l, hperm, hkeyed⟩, ofEntries_of_nodup ?_, sortFields l, ?_,
    hl'.imp fun _ _ h => h.2⟩
  · rw [keys_eq_of_keyed hkeyed]
    exact (inOrder_sortFields l).nodup
  · exact congrArg Value.object (sortFields_map write l)

/-! ### Content -/

namespace Decode

variable {R : α → α → Prop} {read read' : Datum → Option α} {write : α → Value}

/-- A reader finds something in content in which all numbers are finite. -/
def Finds (read : Datum → Option α) (a : α) : Prop := ∃ d : Datum, d.Finite ∧ read d = some a

/-- What one reader finds is found by another one in what is written of it, up to a relation. -/
def Restores (R : α → α → Prop) (read : Datum → Option α) (write : α → Value)
    (read' : Datum → Option α) : Prop :=
  ∀ a, Finds read a → ∃ a', R a a' ∧ read' (write a).toDatum = some a'

/-! #### Scalars -/

theorem restores_text : Restores Eq Datum.asText Value.text Datum.asText :=
  fun s _ => ⟨s, rfl, rfl⟩

theorem restores_flag : Restores Eq Datum.asFlag Value.bool Datum.asFlag :=
  fun b _ => ⟨b, rfl, rfl⟩

theorem restores_count : Restores Eq Datum.asCount (fun n => Value.int n) Datum.asCount := by
  refine fun n _ => ⟨n, rfl, ?_⟩
  have hvalue : (Value.int n).toDatum = .whole false n := by simp [Value.int, Value.toDatum]
  rw [hvalue]
  rfl

/-- A whole number is rounded to a finite one. -/
theorem isFinite_of_finds {x : Float} (h : Finds Datum.asFloat x) : x.isFinite = true := by
  obtain ⟨d, hd, hread⟩ := h
  cases hd with
  | float hx =>
    cases hread
    exact hx
  | whole minus n =>
    rw [Datum.asFloat, Option.some.injEq] at hread
    subst hread
    split
    · exact Decimal.isFinite_neg (Decimal.isFinite_rounded n)
    · exact Decimal.isFinite_rounded n
  | _ => cases hread

theorem restores_float : Restores Eq Datum.asFloat Value.float Datum.asFloat := by
  intro x hx
  refine ⟨x, rfl, ?_⟩
  rw [Value.float, if_pos (isFinite_of_finds hx)]
  rfl

theorem restores_value : Restores Eq Datum.toValue id Datum.toValue := by
  rintro v ⟨d, hd, hread⟩
  exact ⟨v, rfl, toValue_toDatum hd hread⟩

theorem restores_choice (keywords : List String) {ofKeyword? : String → Option α}
    {text : α → String} (h : ∀ a, ofKeyword? (text a) = some a) :
    Restores Eq (Datum.choice keywords ofKeyword?) (fun a => .text (text a))
      (Datum.choice keywords ofKeyword?) :=
  fun a _ => ⟨a, rfl, h a⟩

/-! #### Lists and maps -/

theorem finds_of_list {l : List α} (h : Finds (Datum.asList read) l) : ∀ a ∈ l, Finds read a := by
  obtain ⟨d, hd, hread⟩ := h
  cases hd with
  | list hitems =>
    intro a ha
    obtain ⟨d, hd, hda⟩ := exists_of_forall₂ (forall₂_of_mapM_some hread) ha
    exact ⟨d, hitems d hd, hda⟩
  | _ => cases hread

theorem Restores.list (h : Restores R read write read') :
    Restores (List.Forall₂ R) (Datum.asList read) (fun l => .array (l.map write))
      (Datum.asList read') := by
  intro l hl
  obtain ⟨l', hl'⟩ := exists_forall₂ fun a ha => h a (finds_of_list hl a ha)
  refine ⟨l', hl'.imp fun _ _ h => h.1, ?_⟩
  rw [Value.toDatum, toItems_eq, Datum.asList, List.map_map]
  refine mapM_eq_pure ?_
  rw [List.forall₂_map_left_iff]
  exact hl'.imp fun _ _ h => h.2

theorem Restores.list_eq (h : Restores Eq read write read') :
    Restores Eq (Datum.asList read) (fun l => .array (l.map write)) (Datum.asList read') := by
  have hlist := h.list
  rwa [List.forall₂_eq_eq_eq] at hlist

theorem finds_of_map {l : List (String × α)} (h : Finds (Datum.asMap read) l) :
    (l.map Prod.fst).Nodup ∧ ∀ e ∈ l, Finds read e.2 := by
  obtain ⟨d, hd, hread⟩ := h
  cases hd with
  | map _ hvalues =>
    obtain ⟨pairs, hpairs, hl⟩ := Option.bind_eq_some_iff.mp hread
    cases hl
    refine ⟨nodup_keys_ofEntries pairs, forall_ofEntries fun e he => ?_⟩
    obtain ⟨entry, hentry, hpair⟩ := exists_of_forall₂ (forall₂_of_mapM_some hpairs) he
    obtain ⟨k, -, hpair⟩ := Option.bind_eq_some_iff.mp hpair
    obtain ⟨v, hv, hpair⟩ := Option.bind_eq_some_iff.mp hpair
    cases hpair
    exact ⟨entry.2, hvalues entry hentry, hv⟩
  | _ => cases hread

theorem Restores.map (h : Restores R read write read') :
    Restores (SameEntries R) (Datum.asMap read) (mapToJson write) (Datum.asMap read') := by
  intro l hl
  obtain ⟨hnodup, hfinds⟩ := finds_of_map hl
  obtain ⟨l', hreordered, hl', m, hwritten, hm⟩ :=
    exists_sorted (R := R) (Q := fun a a' => read' (write a).toDatum = some a') write hnodup
      fun e he => h e.2 (hfinds e he)
  refine ⟨l', hreordered, ?_⟩
  rw [hwritten, Value.toDatum, toPairs_eq, Datum.asMap, mapM_eq_pure (r := l')]
  · exact congrArg some hl'
  rw [List.map_map, List.forall₂_map_left_iff]
  refine hm.imp fun e e' hkeyed => ?_
  obtain ⟨key, hread⟩ := hkeyed
  dsimp
  rw [hread]
  rfl

/-! #### Records -/

section Record

variable {entries : List (String × Option Value)} {fields : List String}
  {slots slots' : Slots Datum}

theorem record_object (fields : List String) (fs : List (String × Value)) :
    (Value.object fs).toDatum.record fields =
      Slots.named fields (fs.map fun f => (some f.1, f.2.toDatum)) := by
  have hpairs : (toPairs fs).mapM (fun e => do return (← Datum.fieldOf fields e.1, e.2)) =
      some (fs.map fun f => (some f.1, f.2.toDatum)) := by
    rw [toPairs_eq]
    refine mapM_eq_pure ?_
    rw [List.forall₂_map_left_iff, List.forall₂_map_right_iff, List.forall₂_same]
    exact fun f _ => rfl
  change ((toPairs fs).mapM (fun e => do return (← Datum.fieldOf fields e.1, e.2)) >>=
    Slots.named fields) = _
  rw [hpairs]
  rfl

/-- A record is restored whose fields are found again. -/
theorem restores_record {build build' : Slots Datum → Option α} (keys : List String)
    (entries : α → List (String × Option Value)) (hkeys : ∀ a, (entries a).map Prod.fst = keys)
    (hnodup : keys.Nodup) (hfields : ∀ k ∈ keys, k ∈ fields)
    (hwrite : ∀ a, write a = .ofFields (written (entries a)))
    (hbuild : ∀ slots slots' a, slots.Each Datum.Finite → build slots = some a →
      slots'.Holds Value.toDatum (entries a) → ∃ a', R a a' ∧ build' slots' = some a') :
    Restores R (fun d => d.record fields >>= build) write fun d => d.record fields >>= build' := by
  rintro a ⟨d, hd, hread⟩
  obtain ⟨slots, hslots, hread⟩ := Option.bind_eq_some_iff.mp hread
  obtain ⟨slots', hslots', hholds⟩ :=
    Slots.exists_named Value.toDatum (hkeys a) hnodup hfields
  obtain ⟨a', hR, ha'⟩ := hbuild slots slots' a (hd.record hslots) hread hholds
  refine ⟨a', hR, ?_⟩
  dsimp only
  rw [hwrite, Value.ofFields, record_object, hslots']
  exact ha'

variable {field : String} {a : α} {o : Option α}

theorem Restores.required (h : Restores R read write read') (hslots : slots.Each Datum.Finite)
    (hread : slots.required field read = some a) (hholds : slots'.Holds Value.toDatum entries)
    (he : (field, some (write a)) ∈ entries) :
    ∃ a', R a a' ∧ slots'.required field read' = some a' := by
  rw [Slots.required] at hread
  split at hread
  next d hd =>
    rw [hholds.required he]
    exact h a ⟨d, hslots.of_lookup hd, hread⟩
  next => cases hread

/-- Content that may be missing is given, or it is missing. -/
theorem finds_of_optional (hslots : slots.Each Datum.Finite)
    (h : slots.optional field (Datum.asOptional read) = some (some a)) :
    ∃ d : Datum, d ≠ .null ∧ d.Finite ∧ read d = some a := by
  rw [Slots.optional] at h
  split at h
  next d hd =>
    rw [Datum.asOptional.eq_def] at h
    split at h
    · cases h
    next hnull =>
      obtain ⟨a', ha, heq⟩ := Option.map_eq_some_iff.mp h
      cases heq
      exact ⟨d, hnull, hslots.of_lookup hd, ha⟩
  next => split at h <;> cases h

theorem asOptional_toDatum {v : Value} (hv : v ≠ .null) (h : read' v.toDatum = some a) :
    Datum.asOptional read' v.toDatum = some (some a) := by
  rcases v with _ | _ | (_ | _) | _ | _ | _
  · exact absurd rfl hv
  all_goals exact Option.map_eq_some_iff.mpr ⟨a, h, rfl⟩

theorem Restores.optional (h : Restores R read write read') (hslots : slots.Each Datum.Finite)
    (hread : slots.optional field (Datum.asOptional read) = some o)
    (hnull : ∀ d a, d ≠ .null → d.Finite → read d = some a → write a ≠ .null)
    (hholds : slots'.Holds Value.toDatum entries) (he : (field, o.map write) ∈ entries) :
    ∃ o', Option.Rel R o o' ∧ slots'.optional field (Datum.asOptional read') = some o' := by
  rw [hholds.optional he]
  cases o with
  | none => exact ⟨none, .none, rfl⟩
  | some a =>
    obtain ⟨d, hd, hfinite, hda⟩ := finds_of_optional hslots hread
    obtain ⟨a', hR, ha'⟩ := h a ⟨d, hfinite, hda⟩
    exact ⟨some a', .some hR, asOptional_toDatum (hnull d a hd hfinite hda) ha'⟩

theorem finds_of_defaulted {value : α} (hslots : slots.Each Datum.Finite)
    (h : slots.defaulted field value read = some a) : a = value ∨ Finds read a := by
  rw [Slots.defaulted] at h
  split at h
  next d hd => exact .inr ⟨d, hslots.of_lookup hd, h⟩
  next =>
    cases h
    exact .inl rfl

theorem Restores.optional_eq (h : Restores Eq read write read') (hslots : slots.Each Datum.Finite)
    (hread : slots.optional field (Datum.asOptional read) = some o)
    (hnull : ∀ d a, d ≠ .null → d.Finite → read d = some a → write a ≠ .null)
    (hholds : slots'.Holds Value.toDatum entries) (he : (field, o.map write) ∈ entries) :
    slots'.optional field (Datum.asOptional read') = some o := by
  obtain ⟨o', hrel, ho'⟩ := h.optional hslots hread hnull hholds he
  rw [ho', eq_of_rel_eq hrel]

/-- A field that is written in any case. -/
theorem Restores.defaulted {value : α} (h : Restores R read write read')
    (hslots : slots.Each Datum.Finite) (hread : slots.defaulted field value read = some a)
    (hvalue : ∃ a', R value a' ∧ read' (write value).toDatum = some a')
    (hholds : slots'.Holds Value.toDatum entries) (he : (field, some (write a)) ∈ entries) :
    ∃ a', R a a' ∧ slots'.defaulted field value read' = some a' := by
  rw [hholds.defaulted he]
  rcases finds_of_defaulted hslots hread with rfl | ha
  · exact hvalue
  · exact h a ha

/-- A field that is written when it is not empty. -/
theorem Restores.listed {R : List α → List α → Prop} {read read' : Datum → Option (List α)}
    {write : List α → Value} {l : List α} (h : Restores R read write read')
    (hslots : slots.Each Datum.Finite) (hread : slots.defaulted field [] read = some l)
    (hnil : R [] []) (hholds : slots'.Holds Value.toDatum entries)
    (he : (field, listed write l) ∈ entries) :
    ∃ l', R l l' ∧ slots'.defaulted field [] read' = some l' := by
  rw [hholds.defaulted he]
  cases l with
  | nil => exact ⟨[], hnil, rfl⟩
  | cons a l =>
    rcases finds_of_defaulted hslots hread with hl | hl
    · cases hl
    · exact h (a :: l) hl

end Record

end Decode

/-! ### Documents -/

namespace Read

open Reading

variable {R : α → α → Prop} {reader : Read α} {write : α → Value}

/-- A reader finds something in a plain node. -/
def Finds (reader : Read α) (a : α) : Prop :=
  ∃ n, ∃ node : Node, node.Plain ∧ (reader n node).Gives a

/-- What a reader finds is found in what is written of it, up to a relation. -/
def Restores (R : α → α → Prop) (reader : Read α) (write : α → Value) : Prop :=
  ∀ a, Finds reader a →
    ∃ a', R a a' ∧ ∀ n, (write a).depth ≤ n → reader n (write a).toNode = pure a'

theorem restores_text : Restores Eq text Value.text :=
  fun s _ => ⟨s, rfl, fun _ _ => rfl⟩

theorem restores_flag : Restores Eq flag Value.bool :=
  fun b _ => ⟨b, rfl, fun _ _ => rfl⟩

theorem restores_buffered {decode : Datum → Option α} (h : Decode.Restores R decode write decode) :
    Restores R (buffered decode) write := by
  rintro a ⟨n, node, hnode, hread⟩
  obtain ⟨d, hd, hread⟩ := gives_bind hread
  obtain ⟨a', hR, ha'⟩ := h a ⟨d, hnode.buffer hd, gives_ofOption hread⟩
  refine ⟨a', hR, fun n hn => ?_⟩
  rw [buffered, buffer_toNode hn, pure_bind, ha']
  rfl

theorem finds_of_list {l : List α} (h : Finds (list reader) l) : ∀ a ∈ l, Finds reader a := by
  obtain ⟨n, node, hnode, hread⟩ := h
  rw [list, hnode.follow_eq, pure_bind] at hread
  cases hnode with
  | scalar =>
    split at hread
    · cases ‹Node.scalar _ = Node.list _ _›
    · split at hread
      · rw [gives_pure hread]
        exact nofun
      · exact absurd hread not_gives_failure
    · exact absurd hread not_gives_failure
  | list hitems =>
    cases n with
    | zero => exact absurd hread not_gives_failure
    | succ n =>
      intro a ha
      obtain ⟨item, hitem, hgives⟩ := exists_of_forall₂ (gives_mapM hread) ha
      exact ⟨n, item, hitems item hitem, hgives⟩
  | map =>
    cases n <;> exact absurd hread not_gives_failure

theorem Restores.list (h : Restores R reader write) :
    Restores (List.Forall₂ R) (list reader) fun l => .array (l.map write) := by
  intro l hl
  obtain ⟨l', hl'⟩ := exists_forall₂ fun a ha => h a (finds_of_list hl a ha)
  refine ⟨l', hl'.imp fun _ _ h => h.1, fun n hn => ?_⟩
  obtain ⟨n, rfl⟩ := Nat.exists_eq_add_of_lt hn
  change (toNodes (l.map write)).mapM (reader _) = pure l'
  rw [toNodes_eq, List.map_map]
  refine mapM_eq_pure ?_
  rw [List.forall₂_map_left_iff]
  refine (forall₂_and_mem hl').imp fun a a' ha => ha.2.2 _ ?_
  exact (depth_le_of_mem_items (List.mem_map_of_mem ha.1)).trans (Nat.le_add_right _ _)

theorem Restores.list_eq (h : Restores Eq reader write) :
    Restores Eq (Read.list reader) fun l => .array (l.map write) := by
  have hlist := h.list
  rwa [List.forall₂_eq_eq_eq] at hlist

theorem finds_of_map {l : List (String × α)} (h : Finds (map reader) l) :
    (l.map Prod.fst).Nodup ∧ ∀ e ∈ l, Finds reader e.2 := by
  obtain ⟨n, node, hnode, hread⟩ := h
  rw [map, hnode.follow_eq, pure_bind] at hread
  cases hnode with
  | scalar =>
    split at hread
    · cases ‹Node.scalar _ = Node.map _ _›
    · split at hread
      · rw [gives_pure hread]
        exact ⟨.nil, nofun⟩
      · exact absurd hread not_gives_failure
    · exact absurd hread not_gives_failure
  | list => cases n <;> exact absurd hread not_gives_failure
  | map _ hvalues =>
    cases n with
    | zero => exact absurd hread not_gives_failure
    | succ n =>
      obtain ⟨pairs, hpairs, hl⟩ := gives_bind hread
      rw [gives_pure hl]
      refine ⟨nodup_keys_ofEntries pairs, forall_ofEntries fun e he => ?_⟩
      obtain ⟨entry, hentry, hpair⟩ := exists_of_forall₂ (gives_mapM hpairs) he
      obtain ⟨k, -, hpair⟩ := gives_bind hpair
      obtain ⟨v, hv, hpair⟩ := gives_bind hpair
      rw [gives_pure hpair]
      exact ⟨n, entry.2, hvalues entry hentry, hv⟩

theorem Restores.map (h : Restores R reader write) :
    Restores (SameEntries R) (map reader) (mapToJson write) := by
  intro l hl
  obtain ⟨hnodup, hfinds⟩ := finds_of_map hl
  obtain ⟨l', hreordered, hl', m, hwritten, hm⟩ := exists_sorted (R := R)
    (Q := fun a a' => ∀ n, (write a).depth ≤ n → reader n (write a).toNode = pure a') write hnodup
    fun e he => h e.2 (hfinds e he)
  refine ⟨l', hreordered, fun n hn => ?_⟩
  rw [hwritten] at hn ⊢
  obtain ⟨n, rfl⟩ := Nat.exists_eq_add_of_lt hn
  have hpairs : (toEntries (m.map (Prod.map id write))).mapM (fun e => do
      return (← text (depthOfFields (m.map (Prod.map id write)) + n) e.1,
        ← reader (depthOfFields (m.map (Prod.map id write)) + n) e.2)) = pure l' := by
    rw [toEntries_eq, List.map_map]
    refine mapM_eq_pure ?_
    rw [List.forall₂_map_left_iff]
    refine (forall₂_and_mem hm).imp fun e e' he => ?_
    obtain ⟨hmem, key, hread⟩ := he
    have hdepth := depth_le_of_mem_fields (List.mem_map_of_mem (f := Prod.map id write) hmem)
    dsimp only [Function.comp_apply, Prod.map]
    rw [hread _ (hdepth.trans (Nat.le_add_right _ _))]
    rfl
  change (toEntries (m.map (Prod.map id write))).mapM (fun e => do
      return (← text (depthOfFields (m.map (Prod.map id write)) + n) e.1,
        ← reader (depthOfFields (m.map (Prod.map id write)) + n) e.2)) >>=
    (fun pairs => pure (ofEntries pairs)) = _
  rw [hpairs, pure_bind, hl']

/-! #### Records -/

section Record

variable {entries : List (String × Option Value)} {fields : List String}

/-- Values that are nested at most so deep. -/
def Within (n : Nat) (entries : List (String × Option Value)) : Prop :=
  ∀ e ∈ entries, ∀ v ∈ e.2, v.depth ≤ n

theorem finds_of_record {build : Nat → Slots Node → Reading α} {a : α} {n : Nat} {node : Node}
    (hnode : node.Plain) (h : (record fields build n node).Gives a) :
    ∃ n, ∃ slots : Slots Node, slots.Each Node.Plain ∧ (build n slots).Gives a := by
  rw [record, hnode.follow_eq, pure_bind] at h
  cases hnode with
  | scalar =>
    split at h
    · cases ‹Node.scalar _ = Node.map _ _›
    · cases ‹Node.scalar _ = Node.list _ _›
    · split at h
      · exact ⟨_, ⟨true, []⟩, nofun, h⟩
      · exact absurd h not_gives_failure
    · exact absurd h not_gives_failure
  | list hitems =>
    cases n with
    | zero => exact absurd h not_gives_failure
    | succ n =>
      obtain ⟨document, -, h⟩ := gives_bind h
      split at h
      · obtain ⟨slots, hslots, h⟩ := gives_bind h
        exact ⟨n, slots, .positional hitems (gives_ofOption hslots), h⟩
      · exact absurd h not_gives_failure
  | map _ hvalues =>
    cases n with
    | zero => exact absurd h not_gives_failure
    | succ n =>
      obtain ⟨pairs, hpairs, h⟩ := gives_bind h
      obtain ⟨slots, hslots, h⟩ := gives_bind h
      refine ⟨n, slots, .named (fun e he => ?_) (gives_ofOption hslots), h⟩
      obtain ⟨entry, hentry, hpair⟩ := exists_of_forall₂ (gives_mapM hpairs) he
      obtain ⟨k, -, hpair⟩ := gives_bind hpair
      rw [gives_pure hpair]
      exact hvalues entry hentry

theorem record_object (build : Nat → Slots Node → Reading α) (n : Nat)
    (fs : List (String × Value)) :
    record fields build (n + 1) (Value.object fs).toNode =
      ofOption (Slots.named fields (fs.map fun f => (some f.1, f.2.toNode))) >>= build n := by
  have hpairs : (toEntries fs).mapM (fun e => do return (some (← text n e.1), e.2)) =
      (pure (fs.map fun f => (some f.1, f.2.toNode)) : Reading (List (Option String × Node))) := by
    rw [toEntries_eq]
    refine mapM_eq_pure ?_
    rw [List.forall₂_map_left_iff, List.forall₂_map_right_iff, List.forall₂_same]
    exact fun f _ => rfl
  change ((toEntries fs).mapM (fun e => do return (some (← text n e.1), e.2)) >>= fun pairs =>
    ofOption (Slots.named fields pairs) >>= build n) = _
  rw [hpairs, pure_bind]

theorem within_of_depth {n : Nat} (h : depthOfFields (sortFields (written entries)) ≤ n)
    (hnodup : (entries.map Prod.fst).Nodup) : Within n entries := by
  intro e he v hv
  have hlookup := lookup_written hnodup he
  rw [hv, ← lookup_sortFields ((keys_written entries).nodup hnodup)] at hlookup
  exact (depth_le_of_mem_fields (mem_of_lookup_eq_some hlookup)).trans h

/-- A record is restored whose fields are found again. -/
theorem restores_record {build : Nat → Slots Node → Reading α} (keys : List String)
    (entries : α → List (String × Option Value)) (hkeys : ∀ a, (entries a).map Prod.fst = keys)
    (hnodup : keys.Nodup) (hfields : ∀ k ∈ keys, k ∈ fields)
    (hwrite : ∀ a, write a = .ofFields (written (entries a)))
    (hbuild : ∀ n slots slots' a, slots.Each Node.Plain → (build n slots).Gives a →
      slots'.Holds Value.toNode (entries a) →
      ∃ a', R a a' ∧ ∀ n, Within n (entries a) → build n slots' = pure a') :
    Restores R (record fields build) write := by
  rintro a ⟨n, node, hnode, hread⟩
  obtain ⟨n, slots, hslots, hread⟩ := finds_of_record hnode hread
  obtain ⟨slots', hslots', hholds⟩ := Slots.exists_named Value.toNode (hkeys a) hnodup hfields
  obtain ⟨a', hR, ha'⟩ := hbuild n slots slots' a hslots hread hholds
  refine ⟨a', hR, fun n hn => ?_⟩
  rw [hwrite, Value.ofFields] at hn ⊢
  obtain ⟨n, rfl⟩ := Nat.exists_eq_add_of_lt hn
  rw [record_object, hslots']
  exact ha' _ (within_of_depth (Nat.le_add_right _ _) (hkeys a ▸ hnodup))

variable {slots slots' : Slots Node} {field : String} {a : α} {o : Option α} {n : Nat}

theorem Restores.required (h : Restores R reader write) (hslots : slots.Each Node.Plain)
    (hread : (slots.required field (reader n)).Gives a)
    (hholds : slots'.Holds Value.toNode entries) (he : (field, some (write a)) ∈ entries) :
    ∃ a', R a a' ∧ ∀ n, Within n entries → slots'.required field (reader n) = pure a' := by
  rw [Slots.required] at hread
  split at hread
  next node hnode =>
    obtain ⟨a', hR, ha'⟩ := h a ⟨n, node, hslots.of_lookup hnode, hread⟩
    refine ⟨a', hR, fun n hn => ?_⟩
    rw [hholds.required he]
    exact ha' n (hn _ he _ rfl)
  next => exact absurd hread not_gives_failure

theorem finds_of_optional (hslots : slots.Each Node.Plain)
    (h : (slots.optional field (optional reader n)).Gives (some a)) : Finds reader a := by
  rw [Slots.optional] at h
  split at h
  next node hnode =>
    have hplain := hslots.of_lookup hnode
    have hinner (node : Node) (hplain : node.Plain)
        (h : (do return some (← reader n node) : Reading (Option α)).Gives (some a)) :
        Finds reader a := by
      obtain ⟨a', ha', h⟩ := gives_bind h
      cases gives_pure h
      exact ⟨n, node, hplain, ha'⟩
    rw [Read.optional, hplain.follow_eq, pure_bind] at h
    split at h
    · split at h
      · cases gives_pure h
      · exact hinner _ hplain h
      · exact absurd h not_gives_failure
    · exact hinner _ hplain h
  next =>
    split at h
    · cases gives_pure h
    · exact absurd h not_gives_failure

theorem optional_toNode {v : Value} (hv : v ≠ .null) (h : reader n v.toNode = pure a) :
    Read.optional reader n v.toNode = pure (some a) := by
  have hgiven : Read.optional reader n v.toNode = do return some (← reader n v.toNode) := by
    rcases v with _ | _ | (_ | _) | _ | _ | _
    · exact absurd rfl hv
    all_goals rfl
  rw [hgiven, h, pure_bind]

theorem Restores.optional (h : Restores R reader write) (hslots : slots.Each Node.Plain)
    (hread : (slots.optional field (optional reader n)).Gives o)
    (hnull : ∀ a, write a ≠ .null)
    (hholds : slots'.Holds Value.toNode entries) (he : (field, o.map write) ∈ entries) :
    ∃ o', Option.Rel R o o' ∧
      ∀ n, Within n entries → slots'.optional field (Read.optional reader n) = pure o' := by
  cases o with
  | none =>
    refine ⟨none, .none, fun n _ => ?_⟩
    rw [hholds.optional he]
    rfl
  | some a =>
    obtain ⟨a', hR, ha'⟩ := h a (finds_of_optional hslots hread)
    refine ⟨some a', .some hR, fun n hn => ?_⟩
    rw [hholds.optional he]
    exact optional_toNode (hnull a) (ha' n (hn _ he _ rfl))

theorem Restores.optional_eq (h : Restores Eq reader write) (hslots : slots.Each Node.Plain)
    (hread : (slots.optional field (Read.optional reader n)).Gives o) (hnull : ∀ a, write a ≠ .null)
    (hholds : slots'.Holds Value.toNode entries) (he : (field, o.map write) ∈ entries) (n : Nat)
    (hn : Within n entries) :
    slots'.optional field (Read.optional reader n) = pure o := by
  obtain ⟨o', hrel, ho'⟩ := h.optional hslots hread hnull hholds he
  rw [ho' n hn, eq_of_rel_eq hrel]

theorem finds_of_defaulted {value : α} (hslots : slots.Each Node.Plain)
    (h : (slots.defaulted field value (reader n)).Gives a) : a = value ∨ Finds reader a := by
  rw [Slots.defaulted] at h
  split at h
  next node hnode => exact .inr ⟨n, node, hslots.of_lookup hnode, h⟩
  next => exact .inl (gives_pure h)

/-- A field that is written in any case. -/
theorem Restores.defaulted {value : α} (h : Restores R reader write)
    (hslots : slots.Each Node.Plain) (hread : (slots.defaulted field value (reader n)).Gives a)
    (hvalue : ∃ a', R value a' ∧
      ∀ n, (write value).depth ≤ n → reader n (write value).toNode = pure a')
    (hholds : slots'.Holds Value.toNode entries) (he : (field, some (write a)) ∈ entries) :
    ∃ a', R a a' ∧ ∀ n, Within n entries → slots'.defaulted field value (reader n) = pure a' := by
  have ha : ∃ a', R a a' ∧ ∀ n, (write a).depth ≤ n → reader n (write a).toNode = pure a' := by
    rcases finds_of_defaulted hslots hread with rfl | ha
    · exact hvalue
    · exact h a ha
  obtain ⟨a', hR, ha'⟩ := ha
  refine ⟨a', hR, fun n hn => ?_⟩
  rw [hholds.defaulted he]
  exact ha' n (hn _ he _ rfl)

/-- A field that is written when it is not empty. -/
theorem Restores.listed {R : List α → List α → Prop} {reader : Read (List α)}
    {write : List α → Value} {l : List α} (h : Restores R reader write)
    (hslots : slots.Each Node.Plain) (hread : (slots.defaulted field [] (reader n)).Gives l)
    (hnil : R [] []) (hholds : slots'.Holds Value.toNode entries)
    (he : (field, listed write l) ∈ entries) :
    ∃ l', R l l' ∧ ∀ n, Within n entries → slots'.defaulted field [] (reader n) = pure l' := by
  cases l with
  | nil =>
    refine ⟨[], hnil, fun n _ => ?_⟩
    rw [hholds.defaulted he]
    rfl
  | cons a l =>
    rcases finds_of_defaulted hslots hread with hl | hl
    · cases hl
    · obtain ⟨l', hR, hl'⟩ := h (a :: l) hl
      refine ⟨l', hR, fun n hn => ?_⟩
      rw [hholds.defaulted he]
      exact hl' n (hn _ he _ rfl)

end Record

end Read

end ApiModel
