import ApiModel.Document.Node
import ApiModel.Proofs.Lists

/-!
# Documents in which all numbers are finite

What is read from a document comes from its nodes. So where all numbers of a document are finite,
all numbers are finite in what is read from it.

## Main definitions

* `Datum.Finite`, `Node.Plain`: content and nodes in which all numbers are finite.
* `Slots.Each`: what holds for everything that is given in a record.
* `Reading.Gives`: what a reading may give.

## Main results

* `Datum.Finite.record`, `Datum.Finite.namedRecord`: the fields of a record.
* `Node.Plain.buffer`: a node as it stands.
-/

namespace ApiModel

variable {α β σ : Type}

/-- Related items are read one by one. -/
theorem forall₂_of_mapM_some {f : α → Option β} {l : List α} {bs : List β}
    (h : l.mapM f = some bs) : List.Forall₂ (fun a b => f a = some b) l bs := by
  induction l generalizing bs with
  | nil =>
    cases h
    exact .nil
  | cons a l ih =>
    rw [List.mapM_cons] at h
    obtain ⟨b, hb, h⟩ := Option.bind_eq_some_iff.mp h
    obtain ⟨rest, hrest, h⟩ := Option.bind_eq_some_iff.mp h
    cases h
    exact .cons hb (ih hrest)

/-! ### Content -/

/-- Content in which all numbers are finite. -/
inductive Datum.Finite : Datum → Prop
  | null : Finite null
  | bool (value : Bool) : Finite (bool value)
  | whole (minus : Bool) (magnitude : Nat) : Finite (whole minus magnitude)
  | float {value : Float} (h : value.isFinite = true) : Finite (float value)
  | text (value : String) : Finite (text value)
  | list {items : List Datum} (h : ∀ d ∈ items, Finite d) : Finite (list items)
  | map {entries : List (Datum × Datum)} (hkeys : ∀ e ∈ entries, Finite e.1)
      (hvalues : ∀ e ∈ entries, Finite e.2) : Finite (map entries)

/-- Something holds for everything that is given in a record. -/
def Slots.Each (P : σ → Prop) (slots : Slots σ) : Prop := ∀ e ∈ slots.given, P e.2

namespace Slots

variable {P : σ → Prop} {slots : Slots σ} {fields : List String}

theorem Each.of_lookup (h : slots.Each P) {field : String} {a : σ}
    (ha : slots.given.lookup field = some a) : P a :=
  h _ (mem_of_lookup_eq_some ha)

theorem Each.named {entries : List (Option String × σ)} (h : ∀ e ∈ entries, P e.2)
    (hslots : named fields entries = some slots) : slots.Each P := by
  rw [Slots.named] at hslots
  split at hslots <;> cases hslots
  intro e he
  obtain ⟨⟨key, a⟩, hmem, hknown⟩ := List.mem_filterMap.mp he
  obtain ⟨k, -, hk⟩ := Option.bind_eq_some_iff.mp hknown
  split at hk <;> cases hk
  exact h _ hmem

theorem Each.positional {items : List σ} (h : ∀ a ∈ items, P a)
    (hslots : positional fields items = some slots) : slots.Each P := by
  rw [Slots.positional] at hslots
  split at hslots <;> cases hslots
  exact fun e he => h _ (List.of_mem_zip he).2

end Slots

namespace Datum.Finite

variable {d : Datum} {fields : List String} {slots : Slots Datum}

/-- The fields of a record given by name. -/
theorem namedRecord (hd : d.Finite) (h : d.namedRecord fields = some slots) :
    slots.Each Finite := by
  cases hd with
  | map _ hvalues =>
    obtain ⟨pairs, hpairs, hnamed⟩ := Option.bind_eq_some_iff.mp h
    refine .named (fun e he => ?_) hnamed
    obtain ⟨entry, hentry, hread⟩ := exists_of_forall₂ (forall₂_of_mapM_some hpairs) he
    obtain ⟨key, -, hread⟩ := Option.bind_eq_some_iff.mp hread
    cases hread
    exact hvalues entry hentry
  | _ => cases h

/-- The fields of a record given by name or as a list. -/
theorem record (hd : d.Finite) (h : d.record fields = some slots) : slots.Each Finite := by
  cases hd with
  | list hitems => exact .positional hitems h
  | map hkeys hvalues => exact namedRecord (.map hkeys hvalues) h
  | _ => cases h

end Datum.Finite

/-! ### Readings -/

namespace Reading

/-- A reading gives something, in some document. -/
def Gives (x : Reading α) (a : α) : Prop :=
  ∃ document jumps left, (x.run document).run jumps = some (a, left)

theorem gives_pure {a b : α} (h : (pure a : Reading α).Gives b) : b = a := by
  obtain ⟨_, _, _, h⟩ := h
  cases h
  rfl

theorem not_gives_failure {a : α} : ¬(failure : Reading α).Gives a := by
  rintro ⟨_, _, _, h⟩
  cases h

theorem gives_bind {x : Reading α} {f : α → Reading β} {b : β} (h : (x >>= f).Gives b) :
    ∃ a, x.Gives a ∧ (f a).Gives b := by
  obtain ⟨document, jumps, left, h⟩ := h
  obtain ⟨⟨a, jumps'⟩, hx, hf⟩ := Option.bind_eq_some_iff.mp h
  exact ⟨a, ⟨document, jumps, jumps', hx⟩, document, jumps', left, hf⟩

theorem gives_ofOption {o : Option α} {a : α} (h : (ofOption o).Gives a) : o = some a := by
  cases o with
  | none => exact absurd h not_gives_failure
  | some b => rw [gives_pure h]

theorem gives_mapM {f : α → Reading β} {l : List α} {bs : List β} (h : (l.mapM f).Gives bs) :
    List.Forall₂ (fun a b => (f a).Gives b) l bs := by
  induction l generalizing bs with
  | nil =>
    rw [gives_pure h]
    exact .nil
  | cons a l ih =>
    rw [List.mapM_cons] at h
    obtain ⟨b, hb, h⟩ := gives_bind h
    obtain ⟨rest, hrest, h⟩ := gives_bind h
    rw [gives_pure h]
    exact .cons hb (ih hrest)

/-- What is read from a document is given by its topmost node. -/
theorem gives_of_read {document : Document} {reader : Read α} {a : α}
    (h : document.read reader = some a) : (reader document.levels document.root).Gives a := by
  obtain ⟨⟨a', left⟩, hrun, rfl⟩ := Option.map_eq_some_iff.mp h
  exact ⟨document, document.jumps, left, hrun⟩

theorem read_eq_some {document : Document} {reader : Read α} {a : α}
    (h : reader document.levels document.root = pure a) : document.read reader = some a := by
  rw [Document.read, h]
  rfl

end Reading

/-! ### Nodes -/

/-- A node that refers back to nothing, and in which all numbers are finite. -/
inductive Node.Plain : Node → Prop
  | scalar {s : Scalar} (h : ∀ d ∈ s.datum, d.Finite) : Plain (scalar s)
  | list {tagged : Bool} {items : List Node} (h : ∀ n ∈ items, Plain n) : Plain (list tagged items)
  | map {tagged : Bool} {entries : List (Node × Node)} (hkeys : ∀ e ∈ entries, Plain e.1)
      (hvalues : ∀ e ∈ entries, Plain e.2) : Plain (map tagged entries)

namespace Node.Plain

open Reading

variable {node : Node}

theorem follow_eq (h : node.Plain) : node.follow = pure node := by
  cases h <;> rfl

/-- A node as it stands. -/
theorem buffer (h : node.Plain) {levels : Nat} {d : Datum} (hd : (node.buffer levels).Gives d) :
    d.Finite := by
  induction h generalizing levels d with
  | scalar hs =>
    cases levels with
    | zero => exact hs _ (gives_ofOption hd)
    | succ n => exact hs _ (gives_ofOption hd)
  | @list tagged items hitems ih =>
    cases levels with
    | zero => exact absurd hd not_gives_failure
    | succ n =>
      rw [Node.buffer, (list hitems).follow_eq, pure_bind] at hd
      cases tagged with
      | true => exact absurd hd not_gives_failure
      | false =>
        obtain ⟨ds, hds, hd⟩ := gives_bind hd
        rw [gives_pure hd]
        refine .list fun d' hd' => ?_
        obtain ⟨item, hitem, hgives⟩ := exists_of_forall₂ (gives_mapM hds) hd'
        exact ih item hitem hgives
  | @map tagged entries hkeys hvalues ihkeys ihvalues =>
    cases levels with
    | zero => exact absurd hd not_gives_failure
    | succ n =>
      rw [Node.buffer, (map hkeys hvalues).follow_eq, pure_bind] at hd
      cases tagged with
      | true => exact absurd hd not_gives_failure
      | false =>
        obtain ⟨ds, hds, hd⟩ := gives_bind hd
        rw [gives_pure hd]
        have hentry (e : Datum × Datum) (he : e ∈ ds) : e.1.Finite ∧ e.2.Finite := by
          obtain ⟨entry, hentry, hgives⟩ := exists_of_forall₂ (gives_mapM hds) he
          obtain ⟨k, hk, hgives⟩ := gives_bind hgives
          obtain ⟨v, hv, hgives⟩ := gives_bind hgives
          rw [gives_pure hgives]
          exact ⟨ihkeys entry hentry hk, ihvalues entry hentry hv⟩
        exact .map (fun e he => (hentry e he).1) fun e he => (hentry e he).2

end Node.Plain

end ApiModel
