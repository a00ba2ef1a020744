import ApiModel.Contract.Decode
import ApiModel.Json.Reader
import ApiModel.Yaml.Reader

/-!
# Contracts from texts

## Main definitions

* `ContractError`: why a text is no contract.
* `Contract.ofYaml`, `Contract.ofJson`: the contract of a text.
-/

namespace ApiModel

/-- Why a text is no contract. -/
inductive ContractError where
  | badYaml
  | badJson
  | unsupportedVersion (version : String)
  deriving DecidableEq, Repr

/-- The wording of an error. -/
def ContractError.message : ContractError → String
  | badYaml => "failed to parse YAML"
  | badJson => "failed to parse JSON"
  | unsupportedVersion version => "unsupported OpenAPI version: " ++ version

namespace Contract

/-- Whether a version of the contract format is supported: it starts with `3.`. -/
def isSupported (version : String) : Bool := "3.".toList.isPrefixOf version.toList

/-- A contract of a supported version. -/
def supported (c : Contract) : Except ContractError Contract :=
  if isSupported c.version then .ok c else .error (.unsupportedVersion c.version)

/-- The contract of a YAML text. -/
def ofYaml (text : String) : Except ContractError Contract :=
  match (Yaml.parse text).bind fun d => d.read Read.contract with
  | some c => c.supported
  | none => .error .badYaml

/-- The contract of a JSON text. -/
def ofJson (text : String) : Except ContractError Contract :=
  match (Json.parse text).bind fun d => d.read Read.contract with
  | some c => c.supported
  | none => .error .badJson

end Contract

end ApiModel
