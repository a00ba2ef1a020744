import ApiModel.Profile.Builtin
import ApiModel.Resolution.Literal
import Mathlib.Algebra.Ring.Parity
import Mathlib.Data.List.DropRight

/-!
# Texts between quotes

A text becomes a literal between quotes. Whoever reads the literal as code takes a backslash together
with the character behind it, and stops at the first quote that is not taken in this way. So what
matters of a quote is how many backslashes stand right in front of it. In a literal every quote but
the two at its ends comes behind an odd number of them, and the last one behind an even number. A
reader that starts in front of a literal therefore stops right behind it, whatever follows, and has
then read the text from which the literal was made.

## Main definitions

* `quotes`: the quotes of the profiles that come with the program.
* `backslashesAtEnd`, `MarksEscaped`, `Enclosed`: what may stand between quotes.
* `readQuoted`, `readLiteral`: reading a literal as code.

## Main results

* `escapeWithin_cases`: how a character stands between quotes.
* `enclosed_flatMap`: what is written may stand between quotes.
* `readQuoted_flatMap`: what is written is read back.
* `Profile.literal_of_text`: the literals of texts.
-/

namespace ApiModel

/-- The quotes of the profiles that come with the program. -/
def quotes : List Char := [Profile.jaxrsSpec.literals.quote, Profile.typescript.literals.quote]

/-- The characters that break a line or move along it. -/
def lineControls : List Char := ['\n', '\r', '\t']

/-! ### Reading literals -/

/-- What a character stands for behind a backslash. -/
def ofEscape? (mark c : Char) : Option Char :=
  if c = '\\' then some '\\'
  else if c = 'n' then some '\n'
  else if c = 'r' then some '\r'
  else if c = 't' then some '\t'
  else if c = mark then some mark
  else none

/-- The text in front of the quote that ends a literal, and what follows behind the quote. Behind a
backslash a character is read as an escape; elsewhere no line may be broken. -/
def readQuoted (mark : Char) : Bool → List Char → Option (List Char × List Char)
  | _, [] => none
  | true, c :: rest => do
    let c ← ofEscape? mark c
    (readQuoted mark false rest).map (Prod.map (c :: ·) id)
  | false, c :: rest =>
    if c = '\\' then readQuoted mark true rest
    else if c = mark then some ([], rest)
    else if c ∈ lineControls then none
    else (readQuoted mark false rest).map (Prod.map (c :: ·) id)

/-- The text of the literal with which some code starts, and the code behind it. -/
def readLiteral (mark : Char) : List Char → Option (String × List Char)
  | [] => none
  | c :: rest =>
    if c = mark then (readQuoted mark false rest).map (Prod.map String.ofList id) else none

/-! ### What may stand between quotes -/

/-- How many backslashes stand at the end of a text. -/
def backslashesAtEnd (s : List Char) : Nat := (s.rtakeWhile (· == '\\')).length

/-- Every quote in a text comes behind an odd number of backslashes. -/
def MarksEscaped (mark : Char) (s : List Char) : Prop :=
  ∀ before after, s = before ++ mark :: after → Odd (backslashesAtEnd before)

/-- What may stand between quotes: no line is broken, every quote is escaped, and there is an even
number of backslashes at the end, so that none is left over for the quote that ends the literal. -/
structure Enclosed (mark : Char) (s : List Char) : Prop where
  controls : ∀ c ∈ s, c ∉ lineControls
  marks : MarksEscaped mark s
  closed : Even (backslashesAtEnd s)

section Writing

variable {mark c d : Char} {s : List Char}

@[simp] theorem backslashesAtEnd_backslash (s : List Char) :
    backslashesAtEnd (s ++ ['\\']) = backslashesAtEnd s + 1 := by
  rw [backslashesAtEnd, List.rtakeWhile_concat_pos _ _ _ (by rfl), List.length_append]
  rfl

theorem backslashesAtEnd_of_ne (s : List Char) (hc : c ≠ '\\') :
    backslashesAtEnd (s ++ [c]) = 0 := by
  rw [backslashesAtEnd, List.rtakeWhile_concat_neg _ _ _ (by simpa using hc)]
  rfl

/-- Quotes are read as escapes, and as nothing else. -/
theorem ofEscape?_quote (hmark : mark ∈ quotes) :
    ofEscape? mark mark = some mark ∧ mark ≠ '\\' ∧ mark ∉ lineControls := by
  have hquotes : quotes = ['\"', '\''] := rfl
  rw [hquotes, List.mem_cons, List.mem_singleton] at hmark
  rcases hmark with rfl | rfl <;> decide

/-- Between quotes a character stands for itself, or it is written as an escape. -/
theorem escapeWithin_cases (hmark : mark ∈ quotes) (c : Char) :
    (escapeWithin mark c = [c] ∧ c ≠ '\\' ∧ c ≠ mark ∧ c ∉ lineControls) ∨
      ∃ d, escapeWithin mark c = ['\\', d] ∧ ofEscape? mark d = some c ∧ d ∉ lineControls := by
  obtain ⟨hself, -, hcontrol⟩ := ofEscape?_quote hmark
  rw [escapeWithin]
  split
  next h => exact .inr ⟨'\\', rfl, by rw [h]; rfl, by decide⟩
  split
  next h => exact .inr ⟨'n', rfl, by rw [h]; rfl, by decide⟩
  split
  next h => exact .inr ⟨'r', rfl, by rw [h]; rfl, by decide⟩
  split
  next h => exact .inr ⟨'t', rfl, by rw [h]; rfl, by decide⟩
  split
  next h => exact .inr ⟨c, rfl, h ▸ hself, h ▸ hcontrol⟩
  next hslash hn hr ht hne =>
    exact .inl ⟨rfl, hslash, hne, by simp [lineControls, hn, hr, ht]⟩

/-! ### What is written may stand between quotes -/

theorem MarksEscaped.snoc (h : MarksEscaped mark s) (hc : c = mark → Odd (backslashesAtEnd s)) :
    MarksEscaped mark (s ++ [c]) := by
  intro before after heq
  rcases List.eq_nil_or_concat after with rfl | ⟨after', last, rfl⟩
  · obtain ⟨rfl, hlast⟩ := List.append_inj' heq rfl
    exact hc (List.singleton_inj.mp hlast)
  · rw [List.concat_eq_append, ← List.cons_append, ← List.append_assoc] at heq
    exact h before after' (List.append_inj' heq rfl).1

namespace Enclosed

theorem nil (mark : Char) : Enclosed mark [] where
  controls := List.forall_mem_nil _
  marks before after h := by simp at h
  closed := ⟨0, rfl⟩

/-- A character that stands for itself. -/
theorem append_plain (h : Enclosed mark s) (hc : c ≠ '\\') (hmark : c ≠ mark)
    (hcontrol : c ∉ lineControls) : Enclosed mark (s ++ [c]) where
  controls := List.forall_mem_append.mpr ⟨h.controls, List.forall_mem_singleton.mpr hcontrol⟩
  marks := h.marks.snoc fun heq => absurd heq hmark
  closed := by
    rw [backslashesAtEnd_of_ne s hc]
    exact ⟨0, rfl⟩

/-- An escape. -/
theorem append_escape (h : Enclosed mark s) (hmark : mark ≠ '\\') (hd : d ∉ lineControls) :
    Enclosed mark (s ++ ['\\', d]) := by
  have hodd : Odd (backslashesAtEnd (s ++ ['\\'])) := by
    rw [backslashesAtEnd_backslash]
    exact h.closed.add_one
  have hslash : MarksEscaped mark (s ++ ['\\']) := h.marks.snoc fun heq => absurd heq.symm hmark
  have hsplit : s ++ ['\\', d] = (s ++ ['\\']) ++ [d] := by simp
  refine ⟨List.forall_mem_append.mpr ⟨h.controls, ?_⟩, ?_, ?_⟩
  · exact List.forall_mem_cons.mpr ⟨by decide, List.forall_mem_singleton.mpr hd⟩
  · rw [hsplit]
    exact hslash.snoc fun _ => hodd
  · rw [hsplit]
    by_cases heq : d = '\\'
    · rw [heq, backslashesAtEnd_backslash]
      exact hodd.add_one
    · rw [backslashesAtEnd_of_ne _ heq]
      exact ⟨0, rfl⟩

end Enclosed

/-- What is written for a text may stand between quotes. -/
theorem enclosed_flatMap (hmark : mark ∈ quotes) (text : List Char) :
    Enclosed mark (text.flatMap (escapeWithin mark)) := by
  induction text using List.reverseRecOn with
  | nil => exact .nil mark
  | append_singleton text c ih =>
    rw [List.flatMap_append, List.flatMap_singleton]
    rcases escapeWithin_cases hmark c with ⟨heq, hc, hne, hcontrol⟩ | ⟨d, heq, -, hd⟩ <;> rw [heq]
    · exact ih.append_plain hc hne hcontrol
    · exact ih.append_escape (ofEscape?_quote hmark).2.1 hd

/-! ### What is written is read back -/

theorem readQuoted_escapeWithin (hmark : mark ∈ quotes) (c : Char) (rest : List Char) :
    readQuoted mark false (escapeWithin mark c ++ rest) =
      (readQuoted mark false rest).map (Prod.map (c :: ·) id) := by
  rcases escapeWithin_cases hmark c with ⟨heq, hc, hne, hcontrol⟩ | ⟨d, heq, hd, -⟩ <;> rw [heq]
  · simp only [List.singleton_append, readQuoted, if_neg hc, if_neg hne, if_neg hcontrol]
  · simp only [List.cons_append, List.nil_append, readQuoted, if_true, hd, Option.bind_eq_bind,
      Option.bind_some]

/-- A reader in front of what is written for a text stops behind the quote, whatever follows, and
has then read the text. -/
theorem readQuoted_flatMap (hmark : mark ∈ quotes) (text rest : List Char) :
    readQuoted mark false (text.flatMap (escapeWithin mark) ++ mark :: rest) = some (text, rest) := by
  induction text with
  | nil =>
    rw [List.flatMap_nil, List.nil_append, readQuoted, if_neg (ofEscape?_quote hmark).2.1, if_pos rfl]
  | cons c text ih =>
    rw [List.flatMap_cons, List.append_assoc, readQuoted_escapeWithin hmark, ih]
    rfl

theorem readLiteral_quote (hmark : mark ∈ quotes) (s : String) (rest : List Char) :
    readLiteral mark ((quote mark s).toList ++ rest) = some (s, rest) := by
  rw [quote, String.toList_ofList, List.cons_append, List.cons_append, readLiteral, if_pos rfl,
    List.append_assoc, List.singleton_append, readQuoted_flatMap hmark, Option.map_some, Prod.map,
    String.ofList_toList, id]

end Writing

/-! ### The literals of texts -/

/-- Where the quotes of a built-in profile are used, every text has a literal, whatever its type is
called. The literal starts and ends with the quote, and between them no line is broken, every quote
is escaped and no backslash is left over. A reader in front of the literal reads the text back and
stops behind the literal, whatever follows. So texts that differ have different literals. -/
theorem Profile.literal_of_text {p : Profile} (hp : p.literals.quote ∈ quotes)
    (typeName : Option String) (s : String) :
    ∃ literal within, p.scalarLiteral (.text s) typeName = some literal ∧
      literal.toList = [p.literals.quote] ++ within ++ [p.literals.quote] ∧
      Enclosed p.literals.quote within ∧
      (∀ rest, readLiteral p.literals.quote (literal.toList ++ rest) = some (s, rest)) ∧
      ∀ s' typeName', p.scalarLiteral (.text s') typeName' = some literal → s' = s := by
  refine ⟨quote p.literals.quote s, s.toList.flatMap (escapeWithin p.literals.quote), rfl, ?_,
    enclosed_flatMap hp _, readLiteral_quote hp s, fun s' typeName' h => ?_⟩
  · rw [quote, String.toList_ofList]
    rfl
  · have hread := readLiteral_quote hp s' []
    rw [Option.some.inj h, readLiteral_quote hp s []] at hread
    exact (Prod.mk.inj (Option.some.inj hread)).1.symm

/-- A text with an apostrophe behind a backslash, and with a backslash at its end. -/
theorem Profile.literal_of_apostrophe :
    Profile.typescript.literals.quote ∈ quotes ∧
    Profile.typescript.scalarLiteral (.text "it\\'s\n\\") none = some "'it\\\\\\'s\\n\\\\'" ∧
    (∀ rest, readLiteral '\'' ("'it\\\\\\'s\\n\\\\'".toList ++ rest) =
      some ("it\\'s\n\\", rest)) ∧
    ∀ s', Profile.typescript.scalarLiteral (.text s') none = some "'it\\\\\\'s\\n\\\\'" →
      s' = "it\\'s\n\\" := by
  have hp : Profile.typescript.literals.quote ∈ quotes := by decide
  have hliteral : Profile.typescript.scalarLiteral (.text "it\\'s\n\\") none =
      some "'it\\\\\\'s\\n\\\\'" := by decide
  obtain ⟨literal, within, h, -, -, hread, hunique⟩ := literal_of_text hp none "it\\'s\n\\"
  obtain rfl := Option.some.inj (h.symm.trans hliteral)
  exact ⟨hp, hliteral, hread, fun s' => hunique s' none⟩

end ApiModel
