import ApiModel.Document.Node
import ApiModel.Text.Alphabet
import ApiModel.Text.Segments

/-!
# Flags

Flags are set in layers: a layer leaves open what it does not set. The location of the
embedded copy of the contract must stay inside the output, so it is a relative path that
never steps to a parent directory; a blank location disables the copy.

## Main definitions

* `FlagLayer`, `FlagLayer.over`: one layer, and one layer on top of another.
* `Flags`, `Flags.resolve`: the flags in effect.
* `specLocation`: the check of a location.
-/

namespace ApiModel

/-- One layer of flags, in which a flag may be left open. -/
structure FlagLayer where
  /-- Group operations by their tags. -/
  useTags : Option Bool := none
  /-- Deliver results later. -/
  supportAsync : Option Bool := none
  /-- Generate interfaces only. -/
  interfaceOnly : Option Bool := none
  /-- Return the generic response type. -/
  returnResponse : Option Bool := none
  /-- Add a fallback member to enums. -/
  enumUnknownDefaultCase : Option Bool := none
  /-- Use the reactive wrapper for results that are delivered later. -/
  useReactive : Option Bool := none
  /-- Where the copy of the contract is put. -/
  specLocation : Option String := none
  deriving DecidableEq, Repr, Inhabited

/-- A layer on top of a lower one: what it sets wins. -/
def FlagLayer.over (upper lower : FlagLayer) : FlagLayer where
  useTags := upper.useTags.or lower.useTags
  supportAsync := upper.supportAsync.or lower.supportAsync
  interfaceOnly := upper.interfaceOnly.or lower.interfaceOnly
  returnResponse := upper.returnResponse.or lower.returnResponse
  enumUnknownDefaultCase := upper.enumUnknownDefaultCase.or lower.enumUnknownDefaultCase
  useReactive := upper.useReactive.or lower.useReactive
  specLocation := upper.specLocation.or lower.specLocation

/-- Reads a layer. A flag that is not given, or is null, is left open. -/
def Read.flagLayer : Read FlagLayer :=
  record ["useTags", "supportAsync", "interfaceOnly", "returnResponse",
      "enumUnknownDefaultCase", "useReactive", "specFileLocation"] fun n slots => do
    let layer (field : String) : Reading (Option Bool) :=
      slots.defaulted field none (optional Read.flag n)
    return {
      useTags := ← layer "useTags"
      supportAsync := ← layer "supportAsync"
      interfaceOnly := ← layer "interfaceOnly"
      returnResponse := ← layer "returnResponse"
      enumUnknownDefaultCase := ← layer "enumUnknownDefaultCase"
      useReactive := ← layer "useReactive"
      specLocation := ← slots.defaulted "specFileLocation" none (optional Read.text n) }

/-- The flags in effect. -/
structure Flags where
  /-- Group operations by their tags. -/
  useTags : Bool := false
  /-- Deliver results later. -/
  supportAsync : Bool := false
  /-- Generate interfaces only. -/
  interfaceOnly : Bool := false
  /-- Return the generic response type. -/
  returnResponse : Bool := false
  /-- Add a fallback member to enums. -/
  enumUnknownDefaultCase : Bool := false
  /-- Use the reactive wrapper for results that are delivered later. -/
  useReactive : Bool := false
  /-- Where the copy of the contract is put, unless it is disabled. -/
  specLocation : Option String := none
  deriving DecidableEq, Repr, Inhabited

/-- A location for the copy of the contract that leaves the output. -/
structure BadLocation where
  /-- The location as it was set. -/
  location : String
  deriving DecidableEq, Repr

/-- The wording of the error. -/
def BadLocation.message (b : BadLocation) : String :=
  "invalid specFileLocation `" ++ b.location ++ "`: must be a relative path inside the output"

/-- Whether a path leaves the directory in which it is taken: it starts at the root, or steps
to a parent directory. -/
def leavesDirectory (path : List Char) : Bool :=
  path.head? == some '/' || (Text.segments '/' path).contains ['.', '.']

/-- The location without surrounding white space; nothing when it is blank. -/
def specLocation (raw : String) : Except BadLocation (Option String) :=
  let trimmed := Text.trim raw
  if trimmed.isEmpty then .ok none
  else if leavesDirectory trimmed.toList then .error ⟨raw⟩
  else .ok (some trimmed)

/-- The flags in effect: overrides win over the configured layer, and flags that are left
open are off. The location has a default of the target platform. -/
def Flags.resolve (configured overrides : FlagLayer) (defaultLocation : String) :
    Except BadLocation Flags := do
  let merged := overrides.over configured
  let location ← ApiModel.specLocation (merged.specLocation.getD defaultLocation)
  return {
    useTags := merged.useTags.getD false
    supportAsync := merged.supportAsync.getD false
    interfaceOnly := merged.interfaceOnly.getD false
    returnResponse := merged.returnResponse.getD false
    enumUnknownDefaultCase := merged.enumUnknownDefaultCase.getD false
    useReactive := merged.useReactive.getD false
    specLocation := location }

end ApiModel
