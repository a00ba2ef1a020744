import ApiModel.FileTree
import ApiModel.Settings.Flags
import ApiModel.Yaml.Reader

/-!
# Settings of a project

## Main definitions

* `Settings`: the contract, the target platform and the flags of a project.
* `Settings.ofYaml`: the settings of a text.
* `SettingsError`, `Settings.load`: the settings of a directory, if it has any.
* `Settings.template`: the text of new settings.
-/

namespace ApiModel

/-- The settings of a project. -/
structure Settings where
  /-- The path of the contract. -/
  input : String := "openapi.yaml"
  /-- The target platform, or the path of a profile. -/
  target : String := "jaxrs_spec"
  /-- The configured flags. -/
  flags : FlagLayer := {}
  deriving DecidableEq, Repr, Inhabited

/-- Reads settings; what is not given has its default. -/
def Read.settings : Read Settings :=
  record ["input", "target", "flags"] fun n slots => do
    let default : Settings := {}
    return {
      input := ← slots.defaulted "input" default.input (text n)
      target := ← slots.defaulted "target" default.target (text n)
      flags := ← slots.defaulted "flags" default.flags (flagLayer n) }

namespace Settings

/-- The name of the file that holds the settings. -/
def fileName : String := ".apigen.yaml"

/-- The settings of a text. -/
def ofYaml (text : String) : Option Settings := do
  (← Yaml.parse text).read Read.settings

end Settings

/-- Why settings cannot be loaded. -/
inductive SettingsError where
  | unreadable (cause : FileError)
  | badYaml
  deriving DecidableEq, Repr

namespace Settings

/-- The settings of a directory. There are none when their file does not exist. -/
def load {m : Type → Type} [Monad m] (read : FileReader m) :
    ExceptT SettingsError m (Option Settings) := do
  match ← (read fileName).run with
  | .error .notFound => return none
  | .error cause => throw (.unreadable cause)
  | .ok text =>
    match ofYaml text with
    | some settings => return some settings
    | none => throw .badYaml

/-- The text of new settings. -/
def template : String :=
  "\n".intercalate
    ["# apigen configuration",
      "input: openapi.yaml",
      "target: jaxrs_spec     # jaxrs_spec | typescript | path/to/profile.yaml",
      "",
      "flags:",
      "  useTags: false",
      "  supportAsync: false",
      "  interfaceOnly: false",
      "  returnResponse: false",
      "  enumUnknownDefaultCase: false",
      "  useReactive: false",
      "  # specFileLocation: src/main/openapi/openapi.yaml   # \"\" disables the embedded copy",
      ""]

end Settings

end ApiModel
