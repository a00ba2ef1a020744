import ApiModel.Contract.Ingest
import ApiModel.Profile.Load
import ApiModel.Resolution.Error
import ApiModel.Settings.Project

/-!
# Why commands fail

## Main definitions

* `CommandError`: why a command fails.
* `CommandError.report`: what is printed then.
-/

namespace ApiModel

/-- Why a command fails. -/
inductive CommandError where
  | settings (cause : SettingsError)
  | profile (target : String) (cause : ProfileError)
  | flags (cause : BadLocation)
  | unreadable (path : String) (cause : FileError)
  | contract (path : String) (cause : ContractError)
  | unresolved (path target : String) (cause : ResolveError)
  | settingsExist
  | unwritable (cause : FileError)

namespace CommandError

/-- What failed. -/
def context : CommandError → String
  | settings _ => "loading " ++ Settings.fileName
  | profile target _ => "failed to load target profile `" ++ target ++ "`"
  | flags _ => "invalid flag configuration"
  | unreadable path _ => "failed to read " ++ path
  | contract path _ => "failed to parse " ++ path
  | unresolved path target _ => "failed to resolve " ++ path ++ " for " ++ target
  | settingsExist => Settings.fileName ++ " already exists. Use --force to overwrite."
  | unwritable _ => "failed to write " ++ Settings.fileName

/-- Why it failed, each reason by the next one. -/
def causes : CommandError → List String
  | settings (.unreadable e) =>
    ["failed to read " ++ Settings.fileName ++ ": " ++ e.message, e.message]
  | settings .badYaml => ["failed to parse " ++ Settings.fileName]
  | profile _ (.unreadable path e) => [(ProfileError.unreadable path e).message, e.message]
  | profile _ e => [e.message]
  | flags e => [e.message]
  | unreadable _ e => [e.message]
  | contract _ e => [e.message]
  | unresolved _ _ e => ["resolve error: " ++ e.message, e.message]
  | settingsExist => []
  | unwritable e => [e.message]

/-- A text whose lines after the first are indented. -/
def hanging (indent : Nat) (s : String) : String :=
  String.ofList <|
    s.toList.flatMap fun c => if c = '\n' then c :: List.replicate indent ' ' else [c]

/-- The lines of the reasons: numbered if there are several. -/
def causeLines : List String → List String
  | [cause] => ["    " ++ hanging 4 cause]
  | causes =>
    causes.mapIdx fun n cause =>
      String.ofList (List.replicate (5 - (toString n).length) ' ') ++ toString n ++ ": " ++
        hanging 7 cause

/-- What is printed about an error. -/
def report (e : CommandError) : String :=
  let lines := causeLines e.causes
  "Error: " ++ e.context ++
    (if lines.isEmpty then "" else "\n\nCaused by:\n" ++ "\n".intercalate lines) ++ "\n"

end CommandError

end ApiModel
