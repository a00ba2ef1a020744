import ApiModel.CommandLine.Error
import ApiModel.CommandLine.Help
import ApiModel.CommandLine.Summary
import ApiModel.Generation.Generate
import ApiModel.Target.Encode
import ApiModel.Yaml.Writer

/-!
# Running commands

A command reads the settings of the directory, loads the profile of the target platform,
settles the flags, reads the contract and resolves it, in this order; the first step that
fails ends it. Only the command for new settings writes a file.

## Main definitions

* `Outcome`: what a command prints, how it ends and what it writes.
* `Selection.resolve`: the contract that a selection names, and its model.
* `Command.perform`, `runCommand`: a command, and a call of the program, given how files are
  read.
-/

namespace ApiModel

/-! ### Outcomes -/

/-- What a command prints, how it ends and what it writes. -/
structure Outcome where
  /-- The exit code. -/
  exitCode : UInt8 := 0
  /-- What is printed as the result. -/
  output : String := ""
  /-- What is printed besides. -/
  messages : String := ""
  /-- New settings. -/
  settings : Option String := none
  deriving DecidableEq, Repr

/-- The outcome of a command that fails. -/
def Outcome.ofError (e : CommandError) : Outcome := { exitCode := 1, messages := e.report }

/-- The outcome of a call that is no command. -/
def Outcome.ofUsageError (e : UsageError) : Outcome :=
  { exitCode := 2, messages := "error: " ++ e.message ++ "\n\n" ++ usageText }

/-! ### Commands -/

section

variable {m : Type → Type} [Monad m] (read : FileReader m)

/-- A step that reads no files. -/
def settled {α : Type} (result : Except CommandError α) : ExceptT CommandError m α :=
  .mk (pure result)

/-- Whether a contract at a path is read as JSON. -/
def isJsonPath (path : String) : Bool :=
  match (FileTree.segments path).getLast? with
  | some name => ".json".toList.isSuffixOf name.toList && name ≠ ".json"
  | none => false

/-- The contract at a path. -/
def readContract (path : String) : ExceptT CommandError m Contract := do
  let text ← (read path).adapt (CommandError.unreadable path)
  let parsed := if isJsonPath path then Contract.ofJson text else Contract.ofYaml text
  settled (parsed.mapError (CommandError.contract path))

/-- The contract that a selection names, and its model. -/
def Selection.resolve (s : Selection) : ExceptT CommandError m (Contract × TargetModel) := do
  let settings := (← (Settings.load read).adapt CommandError.settings).getD {}
  let target := s.target.getD settings.target
  let profile ← (Profile.load read target).adapt (CommandError.profile target)
  let flags ← settled <|
    (Flags.resolve settings.flags s.overrides profile.specLocation).mapError CommandError.flags
  let path := s.input.getD settings.input
  let contract ← readContract read path
  let model ← settled <|
    (generate contract profile flags).mapError (CommandError.unresolved path target)
  return (contract, model)

/-- What is printed about a contract that resolves. -/
def validationText (c : Contract) (model : TargetModel) : String :=
  let copy := match model.flags.specLocation with
    | some location => ["  Contract copy: " ++ location]
    | none => []
  "\n".intercalate <|
    ["Valid OpenAPI " ++ c.version ++ " spec: " ++ c.info.title,
      "  Version: " ++ c.info.version,
      "  Paths: " ++ toString c.paths.length,
      "  Schemas: " ++ toString c.components.schemas.length,
      "  Target: " ++ model.target,
      "  Models: " ++ toString model.models.length,
      "  API groups: " ++ toString model.groups.length] ++ copy ++
    ["Validation successful.", ""]

/-- The text of a value in a format. -/
def PrintFormat.print : PrintFormat → Json.Value → String
  | yaml, v => Yaml.write v
  | json, v => v.pretty ++ "\n"

/-- Writes new settings where there are none, or where they may be replaced. -/
def newSettings (force : Bool) : ExceptT CommandError m Outcome := do
  let found ← (read Settings.fileName).run
  let exist := match found with
    | .error .notFound => false
    | _ => true
  if exist && !force then throw .settingsExist
  match found with
  | .error .isDirectory => throw (.unwritable .isDirectory)
  | _ =>
    return {
      messages := "Created " ++ Settings.fileName ++ "\n"
      settings := some Settings.template }

/-- A command. -/
def Command.perform : Command → ExceptT CommandError m Outcome
  | validate selection => do
    let (contract, model) ← selection.resolve read
    return { messages := validationText contract model }
  | inspect selection format summary => do
    let (_, model) ← selection.resolve read
    return { output := format.print (if summary then model.summary else model.toJson) }
  | init force => newSettings read force
  | completions shell => return { output := shell.script }
  | version => return { output := "apigen 0.1.0\n" }
  | help => return { output := usageText }

end

/-- How a call of the program ends. -/
inductive Ending where
  | refused (error : UsageError)
  | failed (error : CommandError)
  | done (outcome : Outcome)

/-- The outcome that shows how a call ends. -/
def Ending.outcome : Ending → Outcome
  | refused error => .ofUsageError error
  | failed error => .ofError error
  | done outcome => outcome

/-- Runs the command of a list of arguments. -/
def runCommand {m : Type → Type} [Monad m] (read : FileReader m) (arguments : List String) :
    m Ending := do
  match Command.ofArguments arguments with
  | .error error => return .refused error
  | .ok command =>
    match ← (command.perform read).run with
    | .ok outcome => return .done outcome
    | .error error => return .failed error

end ApiModel
