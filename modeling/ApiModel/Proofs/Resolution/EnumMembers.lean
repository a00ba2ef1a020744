import ApiModel.Proofs.Lists
import ApiModel.Proofs.Name.Allocator
import ApiModel.Resolution.Default

/-!
# The members of an enum

An enum has one member for each value of its schema besides null, in order, and the fallback member
behind them if the flags ask for one. So a value that equals some value of the schema stands for the
same member in two ways: by the members of the enum, the fallback apart, and by the values of the
schema with their identifiers.

## Main definitions

* `EnumType.member?`: the member that stands for a value.
* `Profile.identifierOf?`, `Profile.memberText?`: its identifier, and how it is written, by the
  values of the schema alone.

## Main results

* `Profile.exists_members_of_enumType`: what the members of an enum are.
* `Profile.map_identifier_member?`: the two ways lead to one identifier.
* `Profile.isSome_identifierOf?_iff`: which values stand for a member.
-/

namespace ApiModel

/-! ### Values -/

namespace Json.Value

/-- Whether a value is a scalar besides null. -/
def isScalar : Json.Value → Bool
  | bool _ | number _ | text _ => true
  | null | array _ | object _ => false

variable {v w : Json.Value}

theorem isNull_of_isScalar (h : v.isScalar = true) : v.isNull = false := by
  cases v with
  | bool _ | number _ | text _ => rfl
  | null | array _ | object _ => cases h

theorem isNull_eq_of_beq (h : (v == w) = true) : v.isNull = w.isNull := by
  cases v with
  | null =>
    cases w with
    | null => rfl
    | _ => cases h
  | _ =>
    cases w with
    | null => cases h
    | _ => rfl

end Json.Value

theorem Profile.exists_scalarLiteral (p : Profile) {v : Json.Value} (h : v.isScalar = true)
    (typeName : Option String) : ∃ literal, p.scalarLiteral v typeName = some literal := by
  cases v with
  | bool b => cases b <;> exact ⟨_, rfl⟩
  | number n => exact ⟨_, rfl⟩
  | text s => exact ⟨_, rfl⟩
  | null | array _ | object _ => cases h

theorem Profile.exists_scalarLiterals (p : Profile) {values : List Json.Value}
    (h : ∀ v ∈ values, v.isScalar = true) (typeName : Option String) :
    ∃ literals : List String, values.map (p.scalarLiteral · typeName) = literals.map some := by
  rcases hliterals : values.mapM (p.scalarLiteral · typeName) with _ | literals
  · obtain ⟨v, hv, hnone⟩ := mapM_eq_none_iff.mp hliterals
    obtain ⟨literal, hliteral⟩ := p.exists_scalarLiteral (h v hv) typeName
    cases hnone.symm.trans hliteral
  · exact ⟨literals, mapM_eq_some_iff.mp hliterals⟩

/-! ### Members -/

/-- The member of an enum that stands for a value: the first one that has it, the fallback apart. -/
def EnumType.member? (e : EnumType) (value : Json.Value) : Option EnumMember :=
  e.members.find? fun m => !m.fallback && m.value == value

namespace Profile

variable (p : Profile)

/-- The identifier of the first of the values of an enum besides null that equals a value. -/
def identifierOf? (values : List Json.Value) (value : Json.Value) : Option String :=
  ((p.enumIdentifiers values).find? fun entry => entry.1 == value).map Prod.snd

/-- How the member of an enum is written that stands for a value. -/
def memberText? (typeName : String) (values : List Json.Value) (value : Json.Value) :
    Option String :=
  (p.identifierOf? values value).map (p.enumReference typeName)

variable {p}

theorem map_fst_enumIdentifiers (values : List Json.Value) :
    (p.enumIdentifiers values).map Prod.fst = values.filter fun v => !v.isNull := by
  unfold enumIdentifiers
  exact List.map_fst_zip (by simp)

/-- The member of a value keeps the value and its identifier, and is no fallback. -/
theorem eq_of_member {typeName : Option String} {location : String} {entry : Json.Value × String}
    {m : EnumMember} (h : p.member typeName location entry = .ok m) :
    (m.value, m.identifier) = entry ∧ m.fallback = false := by
  rw [member] at h
  split at h <;> cases h
  exact ⟨rfl, rfl⟩

/-- The members of an enum are those of the values besides null in order, none of which is a
fallback. The fallback comes behind them, if there is one. -/
theorem exists_members_of_enumType {flags : Flags} {s : Schema} {location : String} {e : EnumType}
    (h : p.enumType flags s location = .ok e) : ∃ own,
      own.map (fun m => (m.value, m.identifier)) = p.enumIdentifiers s.enumValues ∧
      (∀ m ∈ own, m.fallback = false) ∧
      e.members = own ++ if flags.enumUnknownDefaultCase then [p.fallbackMember own] else [] := by
  simp only [enumType, bind, Except.bind, pure, Except.pure] at h
  split at h
  · cases h
  split at h
  · cases h
  next own hown =>
    have hentries := forall₂_of_mapM_ok hown
    refine ⟨own, ?_, fun m hm => ?_, ?_⟩
    · rw [← map_eq_map_of_forall₂ hentries fun _ _ _ hm => (eq_of_member hm).1.symm, List.map_id']
    · obtain ⟨_, -, hm⟩ := exists_of_forall₂ hentries hm
      exact (eq_of_member hm).2
    · split at h <;> cases h
      next hflag => rw [if_pos hflag]
      next hflag => rw [if_neg hflag, List.append_nil]

/-- The member that stands for a value has the identifier of the first value that equals it. -/
theorem map_identifier_member? {flags : Flags} {s : Schema} {location : String} {e : EnumType}
    (h : p.enumType flags s location = .ok e) (value : Json.Value) :
    (e.member? value).map EnumMember.identifier = p.identifierOf? s.enumValues value := by
  obtain ⟨own, hentries, hown, hmembers⟩ := exists_members_of_enumType h
  have hfallback : (if flags.enumUnknownDefaultCase then [p.fallbackMember own] else []).find?
      (fun m => !m.fallback && m.value == value) = none := by
    split <;> rfl
  have hfound : e.member? value = own.find? fun m => m.value == value := by
    rw [EnumType.member?, hmembers, List.find?_append, hfallback, Option.or_none]
    exact find?_eq_find?_of_forall_mem fun m hm => by rw [hown m hm, Bool.not_false, Bool.true_and]
  rw [hfound, identifierOf?, ← hentries, List.find?_map, Option.map_map]
  rfl

/-- How a member is written, by the members of the enum. -/
theorem memberLiteral_eq_memberText? {flags : Flags} {s : Schema} {location : String} {e : EnumType}
    (h : p.enumType flags s location = .ok e) (typeName : String) (value : Json.Value) :
    p.memberLiteral value typeName e = p.memberText? typeName s.enumValues value := by
  rw [memberText?, ← map_identifier_member? h, Option.map_map]
  rfl

/-- A value besides null stands for a member if it is one of the values of the schema. -/
theorem isSome_identifierOf?_iff {values : List Json.Value} {value : Json.Value}
    (h : value.isNull = false) :
    (p.identifierOf? values value).isSome ↔ ∃ v ∈ values, (v == value) = true := by
  rw [identifierOf?, Option.isSome_map, List.find?_isSome]
  constructor
  · rintro ⟨entry, hentry, heq⟩
    have hmem : entry.1 ∈ values.filter fun v => !v.isNull := by
      rw [← map_fst_enumIdentifiers (p := p)]
      exact List.mem_map_of_mem hentry
    exact ⟨entry.1, (List.mem_filter.mp hmem).1, heq⟩
  · rintro ⟨v, hv, heq⟩
    have hmem : v ∈ (p.enumIdentifiers values).map Prod.fst := by
      rw [map_fst_enumIdentifiers, List.mem_filter, Json.Value.isNull_eq_of_beq heq, h]
      exact ⟨hv, rfl⟩
    obtain ⟨entry, hentry, rfl⟩ := List.mem_map.mp hmem
    exact ⟨entry, hentry, heq⟩

end Profile

end ApiModel
