import ApiModel.Decimal.Nearest
import ApiModel.Document.Entries
import ApiModel.Json.Value

/-!
# Data read without a type in mind

Where a document allows several forms at one place, its content is first read as it stands
and then tried against each form. Mappings keep their entries in order, with every key that
was written; a number keeps whether it was written as a whole number, and a whole number
whether it was written with a minus sign.

A record may be given by the names of its fields or, in order and without names, as a list.

## Main definitions

* `Datum`: content as it stands.
* `Slots`: the content of a record, by field.
* `Datum.record`: the fields of a record.
* `Datum.toValue`: content as a plain data value.
-/

namespace ApiModel

/-- Content read as it stands. Whole numbers are those of 64 bits; zero may have a minus
sign. -/
inductive Datum where
  | null
  | bool (value : Bool)
  | whole (minus : Bool) (magnitude : Nat)
  | float (value : Float)
  | text (value : String)
  | list (items : List Datum)
  | map (entries : List (Datum × Datum))
  deriving Inhabited

/-! ### Records -/

/-- The content of a record by field: given by name, or by position. -/
structure Slots (α : Type) where
  /-- Whether the fields were given by name. -/
  byName : Bool
  /-- The fields that were given. -/
  given : List (String × α)
  deriving Repr

namespace Slots

variable {α β : Type} {m : Type → Type}

/-- The fields given by name. Keys that are no field are passed over; a field given twice
is an error. -/
def named (fields : List String) (entries : List (Option String × α)) : Option (Slots α) :=
  let known : List (String × α) := entries.filterMap fun (key, a) =>
    key.bind fun k => if fields.contains k then some (k, a) else none
  if (known.map Prod.fst).Nodup then some ⟨true, known⟩ else none

/-- The fields given in order. More items than fields are an error. -/
def positional (fields : List String) (items : List α) : Option (Slots α) :=
  if items.length ≤ fields.length then some ⟨false, fields.zip items⟩ else none

/-- A field that must be given. -/
def required [Alternative m] (s : Slots α) (field : String) (read : α → m β) : m β :=
  match s.given.lookup field with
  | some a => read a
  | none => failure

/-- A field that need not be given in a record by name, but has a place in a record by
position. -/
def optional [Alternative m] (s : Slots α) (field : String) (read : α → m (Option β)) :
    m (Option β) :=
  match s.given.lookup field with
  | some a => read a
  | none => if s.byName then pure none else failure

/-- A field that has a value of its own when it is not given. -/
def defaulted [Pure m] (s : Slots α) (field : String) (value : β) (read : α → m β) : m β :=
  match s.given.lookup field with
  | some a => read a
  | none => pure value

end Slots

namespace Datum

/-! ### Scalars and lists -/

/-- A text. -/
def asText : Datum → Option String
  | text s => some s
  | _ => none

/-- A truth value. -/
def asFlag : Datum → Option Bool
  | bool b => some b
  | _ => none

/-- A number; a whole number is rounded, and zero has no sign. -/
def asFloat : Datum → Option Float
  | float x => some x
  | whole minus n =>
    some (if minus ∧ n ≠ 0 then -Decimal.rounded n else Decimal.rounded n)
  | _ => none

/-- A whole number that is not negative. -/
def asCount : Datum → Option Nat
  | whole minus n => if minus ∧ n ≠ 0 then none else some n
  | _ => none

/-- A list of items of one form. -/
def asList {α : Type} (read : Datum → Option α) : Datum → Option (List α)
  | list items => items.mapM read
  | _ => none

/-- Content that may be null. -/
def asOptional {α : Type} (read : Datum → Option α) : Datum → Option (Option α)
  | null => some none
  | d => (read d).map some

/-- A map from texts. -/
def asMap {α : Type} (read : Datum → Option α) : Datum → Option (List (String × α))
  | map entries => do
    let pairs ← entries.mapM fun (k, v) => do return (← k.asText, ← read v)
    return ofEntries pairs
  | _ => none

/-! ### Records and choices -/

/-- The field that a key of a record names: by its text, or by its number in the order of
the fields, which has no minus sign. -/
def fieldOf (fields : List String) : Datum → Option (Option String)
  | text s => some (some s)
  | whole false n => some fields[n]?
  | _ => none

/-- The fields of a record given by name. -/
def namedRecord (fields : List String) : Datum → Option (Slots Datum)
  | map entries => do
    let pairs ← entries.mapM fun (k, v) => do return (← fieldOf fields k, v)
    Slots.named fields pairs
  | _ => none

/-- The fields of a record given by name or as a list. -/
def record (fields : List String) : Datum → Option (Slots Datum)
  | list items => Slots.positional fields items
  | d => namedRecord fields d

/-- One of several keywords: as a text, or as the only key of a map without a value. The key
may also be the number of the keyword, without a minus sign. -/
def choice {α : Type} (keywords : List String) (ofKeyword? : String → Option α) :
    Datum → Option α
  | text s => ofKeyword? s
  | map [(text s, null)] => ofKeyword? s
  | map [(whole false n, null)] => keywords[n]?.bind ofKeyword?
  | _ => none

/-! ### Plain data values -/

mutual

/-- Content as a plain data value. The keys of maps must be texts, the last value of a key
counts, and a number that is not finite becomes null. -/
def toValue : Datum → Option Json.Value
  | null => some .null
  | bool b => some (.bool b)
  | whole minus n => some (.int (if minus then -n else n))
  | float x => some (.float x)
  | text s => some (.text s)
  | list items => (toValues items).map .array
  | map entries => (toFields entries).map .ofFields

/-- The items of a list as plain data values. -/
def toValues : List Datum → Option (List Json.Value)
  | [] => some []
  | d :: rest => do return (← toValue d) :: (← toValues rest)

/-- The entries of a map as fields. -/
def toFields : List (Datum × Datum) → Option (List (String × Json.Value))
  | [] => some []
  | (k, v) :: rest => do return (← k.asText, ← toValue v) :: (← toFields rest)

end

mutual

/-- How deep lists and maps are nested. -/
def depth : Datum → Nat
  | list items => depthOfItems items + 1
  | map entries => depthOfEntries entries + 1
  | _ => 0

/-- The depth of the deepest item. -/
def depthOfItems : List Datum → Nat
  | [] => 0
  | d :: rest => max d.depth (depthOfItems rest)

/-- The depth of the deepest key or value. -/
def depthOfEntries : List (Datum × Datum) → Nat
  | [] => 0
  | (k, v) :: rest => max (max k.depth v.depth) (depthOfEntries rest)

end

end Datum

end ApiModel
