import ApiModel.Contract.Schema
import ApiModel.Json.Text

/-!
# Why a schema cannot be resolved

## Main definitions

* `MergeKind`, `SchemaFault`, `ResolveError`: the causes.
* `ResolveError.message`: their wording.
-/

namespace ApiModel

/-- What a branch of an all-of stands for. -/
inductive MergeKind where
  | object
  | value (type : SchemaType)
  deriving DecidableEq, Repr

/-- The name of a kind. -/
def MergeKind.text : MergeKind → String
  | object => "object"
  | value t => t.text

/-- What is wrong with a schema. -/
inductive SchemaFault where
  | noLiteral (value : Json.Value)
  | unmergeable
  | mixedKinds (first second : MergeKind)

/-- The wording of what is wrong with a schema. -/
def SchemaFault.message : SchemaFault → String
  | noLiteral value => "enum value " ++ value.compact ++ " has no scalar literal"
  | unmergeable => "allOf branch with oneOf, anyOf or enum cannot be merged"
  | mixedKinds first second =>
    "allOf mixes " ++ first.text ++ " and " ++ second.text ++ " branches"

/-- Why a schema cannot be resolved. All but `endless` are found at some place of the contract;
`endless` stands for resolving that would never come to an end. -/
inductive ResolveError where
  | invalidPointer (pointer : String)
  | missingTarget (pointer : String)
  | circular (location : String) (chain : List String)
  | malformed (location : String) (fault : SchemaFault)
  | unmapped (location platform : String) (type : SchemaType) (format : Option String)
  | endless (location : String)

/-- Names joined by arrows. -/
def chainText (names : List String) : String := " -> ".intercalate names

/-- The wording of an error. -/
def ResolveError.message : ResolveError → String
  | invalidPointer pointer => "invalid reference format: " ++ pointer
  | missingTarget pointer => "reference target not found: " ++ pointer
  | circular location chain =>
    "circular alias chain at " ++ location ++ ": " ++ chainText chain
  | malformed location fault => "malformed schema at " ++ location ++ ": " ++ fault.message
  | unmapped location platform type format =>
    let suffix :=
      match format with
      | some f => " (format `" ++ f ++ "`)"
      | none => ""
    "no " ++ platform ++ " type mapping for " ++ type.text ++ suffix ++ " at " ++ location
  | endless location => "schema without end at " ++ location

end ApiModel
