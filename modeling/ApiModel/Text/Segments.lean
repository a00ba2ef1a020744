/-!
# Segments between separators

## Main definitions

* `Text.segments`: the segments of a text between separators, empty ones included.

## Main results

* `Text.intercalate_segments`: the segments joined by the separator are the text.
-/

namespace ApiModel.Text

/-- The segments of a text between separators, empty ones included. -/
def segments (separator : Char) : List Char → List (List Char)
  | [] => [[]]
  | c :: rest =>
    if c = separator then [] :: segments separator rest
    else
      match segments separator rest with
      | [] => [[c]]
      | s :: more => (c :: s) :: more

@[simp] theorem segments_nil (separator : Char) : segments separator [] = [[]] := rfl

theorem segments_ne_nil (separator : Char) (s : List Char) : segments separator s ≠ [] := by
  cases s with
  | nil => simp
  | cons c rest =>
    unfold segments
    split
    · simp
    · split <;> simp

/-- The segments joined by the separator are the text. -/
theorem intercalate_segments (separator : Char) (s : List Char) :
    [separator].intercalate (segments separator s) = s := by
  induction s with
  | nil => rfl
  | cons c rest ih =>
    unfold segments
    have hne := segments_ne_nil separator rest
    split
    · next h =>
      subst h
      cases hs : segments c rest with
      | nil => exact absurd hs hne
      | cons t more => rw [hs] at ih; simpa [List.intercalate_cons_cons] using ih
    · cases hs : segments separator rest with
      | nil => exact absurd hs hne
      | cons t more =>
        rw [hs] at ih
        cases more with
        | nil => simpa using ih
        | cons u us => simpa [List.intercalate_cons_cons] using ih

end ApiModel.Text
