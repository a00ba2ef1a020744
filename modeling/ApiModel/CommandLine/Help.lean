import ApiModel.CommandLine.Command

/-!
# How the program is called

## Main definitions

* `usageText`: an overview of the commands.
* `Shell.script`: what makes a shell complete the names of the commands.
-/

namespace ApiModel

/-- How the program is called. -/
def usageText : String :=
  "\n".intercalate
    ["Usage: apigen <COMMAND> [OPTIONS]",
      "",
      "Commands:",
      "  validate             check that a contract resolves for a target",
      "  inspect              print the resolved contract",
      "  init [--force]       write new settings",
      "  completions <SHELL>  print completions for bash, elvish, fish, powershell or zsh",
      "",
      "Options of validate and inspect:",
      "  -i, --input <PATH>",
      "  -t, --target <TARGET>",
      "      --use-tags <BOOL>",
      "      --support-async <BOOL>",
      "      --interface-only <BOOL>",
      "      --return-response <BOOL>",
      "      --enum-unknown-default-case <BOOL>",
      "      --use-reactive <BOOL>",
      "      --spec-file-location <PATH>",
      "",
      "Options of inspect:",
      "      --format <yaml|json>",
      "      --summary",
      ""]

/-- What makes a shell complete the names of the commands. -/
def Shell.script (shell : Shell) : String :=
  let names := " ".intercalate Command.names
  match shell with
  | bash => "complete -W \"" ++ names ++ "\" apigen\n"
  | elvish =>
    "set edit:completion:arg-completer[apigen] = \x7b|@args| put " ++ names ++ " \x7d\n"
  | fish => "complete -c apigen -f -a \"" ++ names ++ "\"\n"
  | powershell =>
    "Register-ArgumentCompleter -Native -CommandName apigen -ScriptBlock \x7b -split '" ++
      names ++ "' \x7d\n"
  | zsh => "compctl -k \"(" ++ names ++ ")\" apigen\n"

end ApiModel
