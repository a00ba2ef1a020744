import ApiModel.Json.Reader
import ApiModel.Proofs.Decimal.Finite
import ApiModel.Proofs.Document.Finite

/-!
# What is read from a text

A text has no references back, and a literal beyond the largest number has no value. So the document
of a text is plain.

## Main results

* `finite_of_literal`: a number that has a value is finite.
* `plain_of_parse`: the document of a text is plain.
-/

namespace ApiModel.Json

/-! ### Scalars -/

theorem finite_of_literal {l : Literal} {d : Datum} (h : l.datum = some d) : d.Finite := by
  have hsigned {x : Float} (hx : x.isFinite = true) :
      Datum.Finite (.float (if l.negative then -x else x)) := by
    split
    · exact .float (Decimal.isFinite_neg hx)
    · exact .float hx
  rw [Literal.datum] at h
  dsimp only at h
  split at h
  · split at h
    · cases h
      exact .whole _ _
    split at h
    · cases h
      exact hsigned (Decimal.isFinite_rounded _)
    · cases h
      exact .whole _ _
  · split at h
    · split at h
      · cases h
      · cases h
        exact hsigned (by decide +kernel)
    · obtain ⟨x, hx, rfl⟩ := Option.map_eq_some_iff.mp h
      exact hsigned (Decimal.isFinite_of_scaled hx)

theorem plain_textScalar (text : Option String) : Node.Plain (.scalar (textScalar text)) := by
  refine .scalar fun d hd => ?_
  obtain ⟨s, -, rfl⟩ := Option.map_eq_some_iff.mp hd
  exact .text s

theorem plain_of_scanQuoted {s : List Char} {scalar : Scalar} {rest : List Char}
    (h : scanQuoted s = some (scalar, rest)) : Node.Plain (.scalar scalar) := by
  obtain ⟨⟨units, rest'⟩, -, h⟩ := Option.bind_eq_some_iff.mp h
  cases h
  exact plain_textScalar _

/-! ### Values -/

/-- Scanning gives plain nodes, if what has been scanned before is plain. -/
theorem plain_of_scan (n : Nat) :
    (∀ s node rest, scanValue n s = some (node, rest) → node.Plain) ∧
    (∀ items s node rest, (∀ i ∈ items, i.Plain) →
      scanItems n items s = some (node, rest) → node.Plain) ∧
    ∀ entries s node rest, (∀ e ∈ entries, e.1.Plain ∧ e.2.Plain) →
      scanEntries n entries s = some (node, rest) → node.Plain := by
  induction n with
  | zero =>
    refine ⟨fun _ _ _ h => ?_, fun _ _ _ _ _ h => ?_, fun _ _ _ _ _ h => ?_⟩
    · rw [scanValue] at h
      cases h
    · rw [scanItems] at h
      cases h
    · rw [scanEntries] at h
      cases h
  | succ n ih =>
    obtain ⟨ihvalue, ihitems, ihentries⟩ := ih
    refine ⟨fun s node rest h => ?_, fun items s node rest hitems h => ?_,
      fun entries s node rest hentries h => ?_⟩
    · rw [scanValue] at h
      split at h
      · split at h
        · cases h
          exact .map nofun nofun
        · exact ihentries [] _ _ _ nofun h
      · split at h
        · cases h
          exact .list nofun
        · exact ihitems [] _ _ _ nofun h
      · obtain ⟨⟨scalar, rest'⟩, hscalar, h⟩ := Option.map_eq_some_iff.mp h
        cases h
        exact plain_of_scanQuoted hscalar
      · cases h
        exact .scalar fun d hd => Option.some.inj hd ▸ .null
      · cases h
        exact .scalar fun d hd => Option.some.inj hd ▸ .bool _
      · cases h
        exact .scalar fun d hd => Option.some.inj hd ▸ .bool _
      · obtain ⟨⟨l, rest'⟩, -, h⟩ := Option.map_eq_some_iff.mp h
        cases h
        exact .scalar fun d hd => finite_of_literal hd
    · rw [scanItems] at h
      obtain ⟨⟨item, s'⟩, hitem, h⟩ := Option.bind_eq_some_iff.mp h
      have hmore : ∀ i ∈ item :: items, i.Plain :=
        List.forall_mem_cons.mpr ⟨ihvalue _ _ _ hitem, hitems⟩
      dsimp only at h
      split at h
      · exact ihitems _ _ _ _ hmore h
      · cases h
        exact .list fun i hi => hmore i (List.mem_reverse.mp hi)
      · cases h
    · rw [scanEntries] at h
      split at h
      · obtain ⟨⟨key, s'⟩, hkey, h⟩ := Option.bind_eq_some_iff.mp h
        dsimp only at h
        split at h
        · obtain ⟨⟨value, s''⟩, hvalue, h⟩ := Option.bind_eq_some_iff.mp h
          have hmore : ∀ e ∈ (Node.scalar key, value) :: entries, e.1.Plain ∧ e.2.Plain :=
            List.forall_mem_cons.mpr
              ⟨⟨plain_of_scanQuoted hkey, ihvalue _ _ _ hvalue⟩, hentries⟩
          dsimp only at h
          split at h
          · exact ihentries _ _ _ _ hmore h
          · cases h
            exact .map (fun e he => (hmore e (List.mem_reverse.mp he)).1)
              fun e he => (hmore e (List.mem_reverse.mp he)).2
          · cases h
        · cases h
      · cases h

/-- The document of a text is plain. -/
theorem plain_of_parse {text : String} {document : Document} (h : parse text = some document) :
    document.root.Plain := by
  obtain ⟨⟨root, rest⟩, hroot, h⟩ := Option.bind_eq_some_iff.mp h
  dsimp only at h
  split at h
  · cases h
  · cases h
    exact (plain_of_scan _).1 _ _ _ hroot

end ApiModel.Json
