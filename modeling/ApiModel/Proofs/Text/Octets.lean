import Mathlib.Data.String.Basic

/-!
# Texts in the order of their octets

Texts are compared character by character. Their octets in UTF-8 come in the same order: of two
characters the larger one has more octets, and then its first octet is larger, or as many, and then
the first octet in which the two differ is larger.

## Main definitions

* `octets`: the octets of a text.

## Main results

* `utf8EncodeChar_append_lt`: the octets of the smaller one of two characters come first.
* `octets_lt_iff`: the order of texts is that of their octets.
-/

namespace ApiModel

/-- The octets of a text in UTF-8. -/
def octets (text : String) : List UInt8 := text.toByteArray.data.toList

/-- The octets of a text are those of its characters. -/
theorem octets_eq (text : String) : octets text = text.toList.flatMap String.utf8EncodeChar := by
  conv_lhs => rw [← String.ofList_toList (s := text)]
  rw [octets, String.toByteArray_ofList, List.utf8Encode, List.data_toByteArray]

/-! ### One character -/

section Octets

variable {m n : Nat} {rest rest' : List UInt8}

theorem cons_lt_cons_of_lt (hn : n < 256) (h : m < n) :
    UInt8.ofNat m :: rest < UInt8.ofNat n :: rest' :=
  List.cons_lt_cons_iff.mpr (.inl ((UInt8.ofNat_lt_iff_lt (Nat.lt_trans h hn) hn).mpr h))

/-- An octet decides, unless it is the same; then those behind it do. -/
theorem cons_lt_cons_of_le (hn : n < 256) (h : m ≤ n) (hrest : m = n → rest < rest') :
    UInt8.ofNat m :: rest < UInt8.ofNat n :: rest' := by
  rcases Nat.lt_or_eq_of_le h with hlt | heq
  · exact cons_lt_cons_of_lt hn hlt
  · exact List.cons_lt_cons_iff.mpr (.inr ⟨congrArg _ heq, hrest heq⟩)

end Octets

/-- The octets of the smaller one of two characters come first, whatever follows. -/
theorem utf8EncodeChar_append_lt {c d : Char} (h : c < d) (rest rest' : List UInt8) :
    String.utf8EncodeChar c ++ rest < String.utf8EncodeChar d ++ rest' := by
  have hval : c.val.toNat < d.val.toNat := UInt32.lt_iff_toNat_lt.mp h
  have hmax : d.val.toNat < 1114112 := by
    have hvalid : d.val.toNat < 55296 ∨ 57343 < d.val.toNat ∧ d.val.toNat < 1114112 := d.valid
    omega
  unfold String.utf8EncodeChar
  dsimp only
  generalize c.val.toNat = v at hval
  generalize d.val.toNat = w at hval hmax
  -- one case for each number of octets of the larger character, and in it for each of the smaller
  by_cases hw₁ : w ≤ 127
  · rw [if_pos hw₁, if_pos (by omega)]
    exact cons_lt_cons_of_lt (by omega) hval
  rw [if_neg hw₁]
  by_cases hw₂ : w ≤ 2047
  · rw [if_pos hw₂]
    by_cases hv₁ : v ≤ 127
    · rw [if_pos hv₁]
      exact cons_lt_cons_of_lt (by omega) (by omega)
    · rw [if_neg hv₁, if_pos (by omega)]
      refine cons_lt_cons_of_le (by omega) (by omega) fun heq => ?_
      exact cons_lt_cons_of_lt (by omega) (by omega)
  rw [if_neg hw₂]
  by_cases hw₃ : w ≤ 65535
  · rw [if_pos hw₃]
    by_cases hv₁ : v ≤ 127
    · rw [if_pos hv₁]
      exact cons_lt_cons_of_lt (by omega) (by omega)
    rw [if_neg hv₁]
    by_cases hv₂ : v ≤ 2047
    · rw [if_pos hv₂]
      exact cons_lt_cons_of_lt (by omega) (by omega)
    · rw [if_neg hv₂, if_pos (by omega)]
      refine cons_lt_cons_of_le (by omega) (by omega) fun heq₁ => ?_
      refine cons_lt_cons_of_le (by omega) (by omega) fun heq₂ => ?_
      exact cons_lt_cons_of_lt (by omega) (by omega)
  rw [if_neg hw₃]
  by_cases hv₁ : v ≤ 127
  · rw [if_pos hv₁]
    exact cons_lt_cons_of_lt (by omega) (by omega)
  rw [if_neg hv₁]
  by_cases hv₂ : v ≤ 2047
  · rw [if_pos hv₂]
    exact cons_lt_cons_of_lt (by omega) (by omega)
  rw [if_neg hv₂]
  by_cases hv₃ : v ≤ 65535
  · rw [if_pos hv₃]
    exact cons_lt_cons_of_lt (by omega) (by omega)
  · rw [if_neg hv₃]
    refine cons_lt_cons_of_le (by omega) (by omega) fun heq₁ => ?_
    refine cons_lt_cons_of_le (by omega) (by omega) fun heq₂ => ?_
    refine cons_lt_cons_of_le (by omega) (by omega) fun heq₃ => ?_
    exact cons_lt_cons_of_lt (by omega) (by omega)

/-! ### Texts -/

theorem flatMap_utf8EncodeChar_lt {cs ds : List Char} (h : cs < ds) :
    cs.flatMap String.utf8EncodeChar < ds.flatMap String.utf8EncodeChar := by
  induction cs generalizing ds with
  | nil =>
    cases ds with
    | nil => exact absurd h (List.lt_irrefl _)
    | cons d ds =>
      obtain ⟨octet, rest, hd⟩ := List.exists_cons_of_ne_nil (String.utf8EncodeChar_ne_nil (c := d))
      rw [List.flatMap_nil, List.flatMap_cons, hd]
      exact List.nil_lt_cons _ _
  | cons c cs ih =>
    cases ds with
    | nil => exact absurd h (List.not_lt_nil _)
    | cons d ds =>
      rw [List.flatMap_cons, List.flatMap_cons]
      rcases List.cons_lt_cons_iff.mp h with hlt | ⟨rfl, hlt⟩
      · exact utf8EncodeChar_append_lt hlt _ _
      · exact List.append_left_lt (ih hlt)

theorem octets_lt_of_lt {s t : String} (h : s < t) : octets s < octets t := by
  rw [octets_eq, octets_eq]
  exact flatMap_utf8EncodeChar_lt (String.lt_iff_toList_lt.mp h)

/-- The order of texts is that of their octets. -/
theorem octets_lt_iff {s t : String} : octets s < octets t ↔ s < t := by
  refine ⟨fun h => ?_, octets_lt_of_lt⟩
  rcases lt_trichotomy s t with hlt | rfl | hgt
  · exact hlt
  · exact absurd h (List.lt_irrefl _)
  · exact absurd h (List.lt_asymm (octets_lt_of_lt hgt))

end ApiModel
