import ApiModel.CommandLine.Arguments
import ApiModel.Settings.Flags

/-!
# Commands

## Main definitions

* `Selection`: the contract, the target platform and the flags that a command names.
* `Command`: what the program is asked to do.
* `Command.ofArguments`: the command of a list of arguments.
-/

namespace ApiModel

/-- What a command names in place of the settings. -/
structure Selection where
  /-- The path of the contract. -/
  input : Option String := none
  /-- The target platform, or the path of a profile. -/
  target : Option String := none
  /-- The flags. -/
  overrides : FlagLayer := {}
  deriving DecidableEq, Repr

/-- How a resolved contract is printed. -/
inductive PrintFormat where
  | yaml
  | json
  deriving DecidableEq, Repr

/-- Programs that can complete commands. -/
inductive Shell where
  | bash
  | elvish
  | fish
  | powershell
  | zsh
  deriving DecidableEq, Repr

/-- What the program is asked to do. -/
inductive Command where
  | validate (selection : Selection)
  | inspect (selection : Selection) (format : PrintFormat) (summary : Bool)
  | init (force : Bool)
  | completions (shell : Shell)
  | version
  | help
  deriving DecidableEq, Repr

/-! ### Values of options -/

/-- A truth value. -/
def truthOfArgument? (s : String) : Option Bool :=
  if s = "true" then some true else if s = "false" then some false else none

/-- A path, which is not empty. -/
def pathOfArgument? (s : String) : Option String := if s.isEmpty then none else some s

/-- A format. -/
def PrintFormat.ofText? (s : String) : Option PrintFormat :=
  if s = "yaml" then some yaml else if s = "json" then some json else none

/-- A program that can complete commands. -/
def Shell.ofText? (s : String) : Option Shell :=
  [("bash", bash), ("elvish", elvish), ("fish", fish), ("powershell", powershell),
    ("zsh", zsh)].lookup s

/-! ### Commands -/

/-- The options that name a contract, a target platform and flags. -/
def Selection.forms : List OptionForm :=
  [{ name := "input", letter := some 'i' }, { name := "target", letter := some 't' },
    { name := "use-tags" }, { name := "support-async" }, { name := "interface-only" },
    { name := "return-response" }, { name := "enum-unknown-default-case" },
    { name := "use-reactive" }, { name := "spec-file-location" }]

/-- The selection that options name. -/
def Selection.ofArguments (a : Arguments) : Except UsageError Selection := do
  let flag (name : String) : Except UsageError (Option Bool) := a.value name truthOfArgument?
  return {
    input := ← a.value "input" pathOfArgument?
    target := ← a.value "target" some
    overrides := {
      useTags := ← flag "use-tags"
      supportAsync := ← flag "support-async"
      interfaceOnly := ← flag "interface-only"
      returnResponse := ← flag "return-response"
      enumUnknownDefaultCase := ← flag "enum-unknown-default-case"
      useReactive := ← flag "use-reactive"
      specLocation := ← a.value "spec-file-location" some } }

namespace Command

/-- The names of the commands. -/
def names : List String := ["validate", "inspect", "init", "completions", "help"]

/-- A command that takes options only, unless help is asked for. -/
private def ofOptions (forms : List OptionForm) (arguments : List String)
    (command : Arguments → Except UsageError Command) : Except UsageError Command := do
  let a ← Arguments.ofList forms arguments
  unless a.others.isEmpty do throw .unexpectedArguments
  let found ← command a
  return if a.help then help else found

/-- The command that prints completions, unless help is asked for. -/
private def completionsOf (arguments : List String) : Except UsageError Command := do
  let a ← Arguments.ofList [] arguments
  match a.others with
  | [] => if a.help then return help else throw .noShell
  | [name] =>
    match Shell.ofText? name with
    | some shell => return if a.help then help else completions shell
    | none => throw .noShell
  | _ => throw .unexpectedArguments

/-- Help as a whole, or about one command. -/
private def helpAbout : List String → Except UsageError Command
  | [] => .ok help
  | [name] => if names.contains name then .ok help else .error (.unknownCommand name)
  | _ => .error .unexpectedArguments

/-- The command of its name and its arguments. -/
def named (name : String) (arguments : List String) : Except UsageError Command :=
  if name = "validate" then
    ofOptions Selection.forms arguments fun a => do
      return validate (← Selection.ofArguments a)
  else if name = "inspect" then
    ofOptions (Selection.forms ++ [{ name := "format" }, { name := "summary", valued := false }])
      arguments fun a => do
        let format ← a.value "format" PrintFormat.ofText?
        return inspect (← Selection.ofArguments a) (format.getD .yaml) (a.has "summary")
  else if name = "init" then
    ofOptions [{ name := "force", valued := false }] arguments fun a => do
      return init (a.has "force")
  else if name = "completions" then completionsOf arguments
  else if name = "help" then helpAbout arguments
  else .error (.unknownCommand name)

/-- The command of a list of arguments. -/
def ofArguments : List String → Except UsageError Command
  | [] => .error .noCommand
  | first :: rest =>
    match first.toList with
    | '-' :: 'h' :: _ => .ok help
    | '-' :: 'V' :: _ => .ok version
    | _ =>
      if first = "--help" then .ok help
      else if first = "--version" then .ok version
      else named first rest

end Command

end ApiModel
