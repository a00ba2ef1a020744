import ApiModel.Name.Allocator
import ApiModel.Profile.Builtin

/-!
# Identifiers that a platform accepts

An identifier is accepted when it is not empty, is no reserved word and does not start with a
digit. A name has a word in every casing, so the identifier made of it is not empty; where it would
be reserved or start with a digit, the prefix of the profile stands before it. A number behind an
accepted identifier leaves it accepted, since no reserved word ends in a digit.

## Main definitions

* `Profile.Accepts`: the identifiers that are accepted.
* `Profile.Escaping`: what a profile must have for its rules to lead to such identifiers.

## Main results

* `NameCase.pick_ofText_ne_empty`: no casing of a name is empty.
* `Profile.Escaping.accepts_identifier`, `Profile.Escaping.accepts_numbered`: the rules lead to
  accepted identifiers.
* `Profile.escaping_of_builtin`: the profiles that come with the program have what it takes.
-/

namespace ApiModel

/-! ### No casing of a name is empty -/

namespace Text

/-- Words are not empty; once the case run has begun, neither is the word under way. -/
theorem ne_nil_of_mem_cutAtCase {run : CaseRun} {word cs : List Char}
    (h : run = .upper → word ≠ []) : ∀ w ∈ cutAtCase run word cs, w ≠ [] := by
  fun_induction cutAtCase run word cs with
  | case1 run word hempty => simp
  | case2 run word hempty => simpa using hempty
  | case3 run word c => simp
  | case4 run word c d rest hcut ih => simpa using ih (by simp)
  | case5 run word c d rest _ hcut ih => simpa [h hcut.1] using ih (by simp)
  | case6 run word c d rest _ _ ih => exact ih (by simp)

theorem ne_nil_of_mem_words {s : String} {w : List Char} (h : w ∈ words s) : w ≠ [] := by
  obtain ⟨piece, -, hw⟩ := List.mem_flatMap.mp h
  exact ne_nil_of_mem_cutAtCase (by simp) w hw

theorem lowerWord_ne_nil {w : List Char} (h : w ≠ []) : lowerWord w ≠ [] := by
  fun_cases lowerWord w with
  | case1 => exact absurd rfl h
  | case2 => simp
  | case3 c => exact lower_ne_nil c
  | case4 c => simp [lower_ne_nil c]

theorem capitalize_ne_nil {w : List Char} (h : w ≠ []) : capitalize w ≠ [] := by
  cases w with
  | nil => exact absurd rfl h
  | cons c rest => simp [capitalize, upper_ne_nil c]

theorem upperWord_ne_nil {w : List Char} (h : w ≠ []) : upperWord w ≠ [] := by
  cases w with
  | nil => exact absurd rfl h
  | cons c rest => simp [upperWord, upper_ne_nil c]

end Text

namespace Name

theorem ne_nil_of_mem_wordsOf {text : String} {w : List Char} (h : w ∈ wordsOf text) :
    w ≠ [] := by
  rw [wordsOf] at h
  split at h
  · obtain rfl := List.mem_singleton.mp h
    decide
  · exact Text.ne_nil_of_mem_words h

end Name

theorem ofList_ne_empty {cs : List Char} (h : cs ≠ []) : String.ofList cs ≠ "" := by
  simpa using h

/-- No casing of a name is empty. -/
theorem NameCase.pick_ofText_ne_empty (rule : NameCase) (text : String) :
    rule.pick (Name.ofText text) ≠ "" := by
  obtain ⟨w, ws, hws⟩ := List.exists_cons_of_ne_nil (Name.wordsOf_ne_nil text)
  have hw : w ≠ [] := Name.ne_nil_of_mem_wordsOf (hws ▸ List.mem_cons_self)
  cases rule <;> simp only [pick, Name.ofText, hws] <;> refine ofList_ne_empty ?_
  case pascal => simp [Text.capitalize_ne_nil hw]
  case camel => simp [Text.lowerWord_ne_nil hw]
  case snake => cases ws <;> simp [Text.lowerWord_ne_nil hw]
  case screamingSnake => cases ws <;> simp [Text.upperWord_ne_nil hw]

/-! ### Accepted identifiers -/

namespace Profile

/-- An identifier that the platform accepts. -/
structure Accepts (p : Profile) (identifier : String) : Prop where
  ne_empty : identifier ≠ ""
  not_reserved : identifier ∉ p.reservedWords
  not_digit : startsWithDigit identifier = false

/-- What a profile must have for its rules to lead to accepted identifiers. -/
structure Escaping (p : Profile) : Prop where
  /-- The prefix starts with a character that is no digit and starts no reserved word. -/
  lead : ∃ c, p.naming.reservedPrefix.toList.head? = some c ∧ c.isDigit = false ∧
    ∀ w ∈ p.reservedWords, w.toList.head? ≠ some c
  /-- No reserved word ends in a digit. -/
  trail : ∀ w ∈ p.reservedWords, w.toList.getLast?.all (fun c => !c.isDigit)
  /-- The identifier of the fallback member is accepted. -/
  fallback : p.Accepts p.naming.fallbackMember

variable {p : Profile}

theorem Escaping.accepts_prefixed (h : p.Escaping) (text : String) :
    p.Accepts (p.naming.reservedPrefix ++ text) := by
  obtain ⟨c, hhead, hdigit, hreserved⟩ := h.lead
  have hlead : (p.naming.reservedPrefix ++ text).toList.head? = some c := by
    rw [String.toList_append, List.head?_append, hhead, Option.some_or]
  refine ⟨fun hempty => ?_, fun hmem => hreserved _ hmem hlead, ?_⟩
  · rw [hempty] at hlead
    cases hlead
  · rw [startsWithDigit, hlead]
    exact hdigit

/-- A name in any casing becomes an accepted identifier. -/
theorem Escaping.accepts_identifier (h : p.Escaping) (text : String) (rule : NameCase) :
    p.Accepts (p.identifier (Name.ofText text) rule) := by
  unfold identifier
  dsimp only
  split
  · exact h.accepts_prefixed _
  next hallowed =>
    rw [Bool.or_eq_true, not_or, Bool.not_eq_true, Bool.not_eq_true] at hallowed
    refine ⟨rule.pick_ofText_ne_empty text, fun hmem => ?_, hallowed.1⟩
    have hreserved : p.isReserved (rule.pick (Name.ofText text)) = true :=
      List.contains_iff_mem.mpr hmem
    rw [hallowed.2] at hreserved
    cases hreserved

theorem getLast?_numbered (base : String) (n : Nat) :
    ∃ c, (Allocator.numbered base n).toList.getLast? = some c ∧ c.isDigit = true := by
  have hne : Nat.toDigits 10 n ≠ [] := Nat.toDigits_ne_nil
  refine ⟨(Nat.toDigits 10 n).getLast hne, ?_,
    Nat.isDigit_of_mem_toDigits (by decide) (by decide) (List.getLast_mem hne)⟩
  rw [Allocator.numbered, Nat.toString_eq_ofList_toDigits, String.toList_append,
    String.toList_ofList, List.getLast?_append, List.getLast?_eq_some_getLast hne,
    Option.some_or]

/-- A number behind an accepted identifier leaves it accepted. -/
theorem Escaping.accepts_numbered (h : p.Escaping) {base : String} (hbase : p.Accepts base)
    (n : Nat) : p.Accepts (Allocator.numbered base n) := by
  obtain ⟨c, hlast, hdigit⟩ := getLast?_numbered base n
  have hne : base.toList ≠ [] := fun hempty =>
    hbase.ne_empty (String.toList_eq_nil_iff.mp hempty)
  refine ⟨fun hempty => ?_, fun hmem => ?_, ?_⟩
  · rw [hempty] at hlast
    cases hlast
  · have htrail := h.trail _ hmem
    rw [hlast] at htrail
    simp [hdigit] at htrail
  · have hhead : (Allocator.numbered base n).toList.head? = base.toList.head? := by
      obtain ⟨c, rest, hbase⟩ := List.exists_cons_of_ne_nil hne
      rw [Allocator.numbered, String.toList_append, hbase, List.cons_append, List.head?_cons,
        List.head?_cons]
    rw [startsWithDigit, hhead]
    exact hbase.not_digit

/-- The profiles that come with the program lead to accepted identifiers. -/
theorem escaping_of_builtin {id : String} (h : builtin? id = some p) : p.Escaping := by
  unfold builtin? at h
  split at h <;> cases h
  · exact ⟨⟨'_', by decide⟩, by decide, by decide, by decide, by decide⟩
  · exact ⟨⟨'_', by decide⟩, by decide, by decide, by decide, by decide⟩

end Profile

end ApiModel
