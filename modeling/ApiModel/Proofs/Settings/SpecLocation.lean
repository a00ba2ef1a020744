import ApiModel.Proofs.Generation.Output

/-!
# The copy of the contract stays inside the output

The location of the copy is that of the overrides, else the configured one, else the default of the
profile, without the white space around it. Between slashes a path names a directory below, or none
if the segment is empty or a dot, or steps to the directory above. The location is refused exactly if
it starts at the root or if one of its segments steps up, wherever it stands. What is left never
steps up, so a walk along it goes down only, and comes through the directories that it names.

## Main definitions

* `pickedLocation`: the location that counts among the layers.
* `pathSegments`, `LeadsOut`: the segments of a path, and when a location is refused.
* `stepAlong`, `walkAlong`, `StaysInside`: a walk along the segments of a path.

## Main results

* `segments_eq_splitOn`: the segments of a path.
* `specLocation_eq`: the check of a location.
* `staysInside_of_not_leadsOut`: a location that is not refused stays inside the output.
* `Flags.location_of_resolve`: the location of the copy, and where the copy is put.
-/

namespace ApiModel

/-! ### Which location counts -/

/-- The location of the overrides, else the configured one, else a default. -/
def pickedLocation (configured overrides : FlagLayer) (default : String) : String :=
  match overrides.specLocation, configured.specLocation with
  | some location, _ => location
  | none, some location => location
  | none, none => default

theorem getD_specLocation_over (configured overrides : FlagLayer) (default : String) :
    (overrides.over configured).specLocation.getD default =
      pickedLocation configured overrides default := by
  rw [FlagLayer.over, pickedLocation]
  cases overrides.specLocation <;> cases configured.specLocation <;> rfl

/-! ### Locations that lead out -/

/-- The segments of a path between its slashes. -/
def pathSegments (path : String) : List (List Char) := path.toList.splitOn '/'

/-- A location leads out of the output if it starts at the root, or if it steps up anywhere. -/
def LeadsOut (path : String) : Prop :=
  path ≠ "" ∧ (path.toList.head? = some '/' ∨ ['.', '.'] ∈ pathSegments path)

theorem Text.segments_eq_splitOn (separator : Char) (s : List Char) :
    Text.segments separator s = s.splitOn separator := by
  induction s with
  | nil => rfl
  | cons c s ih =>
    have hne := Text.segments_ne_nil separator s
    rw [ih] at hne
    obtain ⟨first, more, hs⟩ := List.exists_cons_of_ne_nil hne
    rw [Text.segments, List.splitOn_cons_eq_if_modifyHead, ih, hs]
    by_cases h : c = separator
    · rw [if_pos h, if_pos (beq_iff_eq.mpr h)]
    · rw [if_neg h, if_neg (by simpa using h)]
      rfl

theorem leavesDirectory_iff (path : String) : leavesDirectory path.toList = true ↔
    path.toList.head? = some '/' ∨ ['.', '.'] ∈ pathSegments path := by
  rw [leavesDirectory, Text.segments_eq_splitOn, pathSegments, Bool.or_eq_true, beq_iff_eq,
    List.contains_iff_mem]

/-- A location is refused as it was set exactly if it leads out without the white space around it,
and is left out if nothing else is there. -/
theorem specLocation_eq (raw : String) [Decidable (LeadsOut (Text.trim raw))] :
    specLocation raw =
      if LeadsOut (Text.trim raw) then .error ⟨raw⟩
      else .ok (if Text.trim raw = "" then none else some (Text.trim raw)) := by
  rw [specLocation]
  by_cases hblank : Text.trim raw = ""
  · have hstays : ¬LeadsOut (Text.trim raw) := fun h => h.1 hblank
    rw [if_neg hstays, if_pos hblank, if_pos (by simp [hblank])]
  · have hleads : leavesDirectory (Text.trim raw).toList = true ↔ LeadsOut (Text.trim raw) :=
      (leavesDirectory_iff _).trans ⟨fun h => ⟨hblank, h⟩, fun h => h.2⟩
    rw [if_neg (by simpa using hblank), if_neg hblank]
    simp only [hleads]

/-! ### Walking along a path -/

/-- A segment that leads nowhere else. -/
def staysPut (segment : List Char) : Bool := segment = [] ∨ segment = ['.']

/-- Where a segment leads from a directory inside the output, which is known by the names on the way
to it, the innermost first; nowhere inside if it steps up from the output itself. -/
def stepAlong (here : List (List Char)) (segment : List Char) : Option (List (List Char)) :=
  if staysPut segment then some here
  else if segment = ['.', '.'] then here.tail?
  else some (segment :: here)

/-- Where segments lead from the output, unless they lead out of it on the way. -/
def walkAlong (segments : List (List Char)) : Option (List (List Char)) :=
  segments.foldlM stepAlong []

/-- A walk along a path is inside the output after every segment. -/
def StaysInside (path : String) : Prop :=
  ∀ n, (walkAlong ((pathSegments path).take n)).isSome

/-- Segments of which none steps up lead down through the directories that they name. -/
theorem foldlM_stepAlong {segments : List (List Char)} (h : ['.', '.'] ∉ segments)
    (here : List (List Char)) : segments.foldlM stepAlong here =
      some ((segments.filter fun s => !staysPut s).reverse ++ here) := by
  induction segments generalizing here with
  | nil => rfl
  | cons s rest ih =>
    rw [List.mem_cons, not_or] at h
    rw [List.foldlM_cons, stepAlong, List.filter_cons]
    cases hstay : staysPut s with
    | true =>
      rw [if_pos rfl, Option.bind_eq_bind, Option.bind_some, ih h.2]
      rfl
    | false =>
      rw [if_neg Bool.false_ne_true, if_neg (Ne.symm h.1), Option.bind_eq_bind, Option.bind_some,
        ih h.2, Bool.not_false, if_pos rfl, List.reverse_cons, List.append_assoc,
        List.singleton_append]

/-- A location that does not lead out stays inside the output. -/
theorem staysInside_of_not_leadsOut {path : String} (hpath : path ≠ "") (h : ¬LeadsOut path) :
    StaysInside path := by
  intro n
  have hup : ['.', '.'] ∉ (pathSegments path).take n := fun hmem =>
    h ⟨hpath, .inr (List.mem_of_mem_take hmem)⟩
  rw [walkAlong, foldlM_stepAlong hup, Option.isSome_some]

/-! ### The copy in the output -/

/-- An output has the flags with which it is generated, so its copy of the contract is put where they
say. -/
theorem embeddedContract_of_generate {c : Contract} {p : Profile} {flags : Flags} {out : TargetModel}
    (h : generate c p flags = .ok out) (source : String) :
    out.embeddedContract source = flags.specLocation.map fun path => (path, source) := by
  obtain ⟨_, _, -, -, rfl⟩ := generate_eq_ok_iff.mp h
  rfl

/-- Flags are refused exactly if the location that counts among the layers leads out of the output
without the white space around it; the error has the location as it was set. Otherwise there are
flags. They have no location if that is blank, and else the location without the white space around
it, which stays inside the output after every segment; and whatever is generated with these flags, the
copy of its contract is put just there. -/
theorem Flags.location_of_resolve (configured overrides : FlagLayer) (default : String) :
    (LeadsOut (Text.trim (pickedLocation configured overrides default)) →
      Flags.resolve configured overrides default =
        .error ⟨pickedLocation configured overrides default⟩) ∧
    (¬LeadsOut (Text.trim (pickedLocation configured overrides default)) →
      ∃ flags, Flags.resolve configured overrides default = .ok flags ∧
        flags.specLocation =
          (if Text.trim (pickedLocation configured overrides default) = "" then none
          else some (Text.trim (pickedLocation configured overrides default))) ∧
        (∀ path ∈ flags.specLocation, StaysInside path) ∧
        ∀ c p source out, generate c p flags = .ok out →
          out.embeddedContract source = flags.specLocation.map fun path => (path, source)) := by
  classical
  rw [Flags.resolve, getD_specLocation_over, specLocation_eq]
  constructor
  · intro hleads
    rw [if_pos hleads]
    rfl
  · intro hstays
    rw [if_neg hstays]
    refine ⟨_, rfl, rfl, fun path hpath => ?_, fun c p source out h =>
      embeddedContract_of_generate h source⟩
    dsimp only at hpath
    split at hpath
    · cases hpath
    next hblank =>
      cases hpath
      exact staysInside_of_not_leadsOut hblank hstays

/-- Names may start with dots, and segments may be empty; a step up is refused behind other names,
too. -/
example : specLocation " ..a//./b/ " = .ok (some "..a//./b/") ∧
    specLocation "a/b/.." = .error ⟨"a/b/.."⟩ := by decide

end ApiModel
