/-!
# Arguments of a command

An argument that starts with two hyphens names an option in full, one that starts with a
single hyphen by a letter. The value of an option follows it: behind an equals sign, directly
behind the letter, or as the next argument, which then must not look like an option. Behind
two hyphens alone there are no more options. An option is given at most once. What stands
behind a request for help does not count.

## Main definitions

* `OptionForm`: an option that a command takes.
* `UsageError`: why arguments are not accepted.
* `Arguments.ofList`: the options and the other arguments of a list.
-/

namespace ApiModel

/-- An option that a command takes. -/
structure OptionForm where
  /-- Its name. -/
  name : String
  /-- The letter that may stand for it. -/
  letter : Option Char := none
  /-- Whether it has a value. -/
  valued : Bool := true
  deriving DecidableEq, Repr

/-- Why arguments are not accepted. -/
inductive UsageError where
  | noCommand
  | unknownCommand (name : String)
  | unknownOption (argument : String)
  | missingValue (option : String)
  | unexpectedValue (option : String)
  | badValue (option value : String)
  | repeatedOption
  | unexpectedArguments
  | noShell
  deriving DecidableEq, Repr

/-- The wording of a reason. -/
def UsageError.message : UsageError → String
  | noCommand => "a command is needed"
  | unknownCommand name => "there is no command " ++ name
  | unknownOption argument => "there is no option " ++ argument
  | missingValue option => "--" ++ option ++ " needs a value"
  | unexpectedValue option => "--" ++ option ++ " takes no value"
  | badValue option value => "--" ++ option ++ " does not take the value " ++ value
  | repeatedOption => "an option is given twice"
  | unexpectedArguments => "there are too many arguments"
  | noShell => "the name of a shell is needed"

/-- What an argument is by itself. -/
inductive Argument where
  | other
  | separator
  | help
  | given (name value : String)
  | awaiting (name : String)
  | refused (error : UsageError)
  deriving DecidableEq, Repr

/-- Splits a text at its first equals sign. -/
private def splitValue (s : List Char) : List Char × Option (List Char) :=
  match s.dropWhile (· ≠ '=') with
  | _ :: value => (s.takeWhile (· ≠ '='), some value)
  | [] => (s, none)

/-- An option with a value that may stand in the same argument. -/
private def optionArgument (form : OptionForm) : Option (List Char) → Argument
  | some value =>
    if form.valued then .given form.name (String.ofList value)
    else .refused (.unexpectedValue form.name)
  | none => if form.valued then .awaiting form.name else .given form.name ""

/-- What an argument is by itself, given the options that there are. -/
def Argument.ofText (forms : List OptionForm) (s : String) : Argument :=
  match s.toList with
  | ['-', '-'] => .separator
  | '-' :: '-' :: rest =>
    let (name, value?) := splitValue rest
    let name := String.ofList name
    if name = "help" then if value?.isNone then .help else .refused (.unexpectedValue name)
    else
      match forms.find? fun f => f.name = name with
      | some form => optionArgument form value?
      | none => .refused (.unknownOption s)
  | '-' :: letter :: rest =>
    if letter = 'h' then .help
    else
      match forms.find? fun f => f.letter = some letter with
      | some form =>
        optionArgument form <|
          match rest with
          | [] => none
          | '=' :: value => some value
          | value => some value
      | none => .refused (.unknownOption s)
  | _ => .other

/-- The options and the other arguments of a list. -/
structure Arguments where
  /-- The options that are given, with their values. -/
  options : List (String × String) := []
  /-- The other arguments. -/
  others : List String := []
  /-- Whether help is asked for. -/
  help : Bool := false
  deriving DecidableEq, Repr

namespace Arguments

/-- Whether an argument may be the value of the option before it. -/
def mayBeValue (s : String) : Bool := s = "-" || s.toList.head? != some '-'

/-- Takes arguments one by one, given the option that still waits for its value. -/
def scan (forms : List OptionForm) : Option String → List String → Except UsageError Arguments
  | some name, [] => .error (.missingValue name)
  | none, [] => .ok {}
  | some name, s :: rest =>
    if mayBeValue s then do
      let found ← scan forms none rest
      return { found with options := (name, s) :: found.options }
    else .error (.missingValue name)
  | none, s :: rest =>
    match Argument.ofText forms s with
    | .separator => .ok { others := rest }
    | .help => .ok { help := true }
    | .refused error => .error error
    | .awaiting name => scan forms (some name) rest
    | .given name value => do
      let found ← scan forms none rest
      return { found with options := (name, value) :: found.options }
    | .other => do
      let found ← scan forms none rest
      return { found with others := s :: found.others }

/-- The options and the other arguments of a list. -/
def ofList (forms : List OptionForm) (arguments : List String) :
    Except UsageError Arguments := do
  let found ← scan forms none arguments
  if (found.options.map Prod.fst).Nodup then return found else throw .repeatedOption

/-- The value of an option that may be missing, if it can be read. -/
def value {α : Type} (a : Arguments) (name : String) (read : String → Option α) :
    Except UsageError (Option α) :=
  match a.options.lookup name with
  | none => .ok none
  | some s =>
    match read s with
    | some value => .ok (some value)
    | none => .error (.badValue name s)

/-- Whether an option is given. -/
def has (a : Arguments) (name : String) : Bool := (a.options.lookup name).isSome

end Arguments

end ApiModel
