import QuestMod.Blueprint.Loading
import QuestMod.CommandLine.Arguments
import QuestMod.Generation.Run
import QuestMod.Settings.Loading

/-!
# Running commands

Each command is a program on a file store that ends with an exit code and the text for
both output streams.
-/

namespace QuestMod
namespace CommandLine

open Blueprint (Project)
open Storage (Program)

/-- What a run of the program leaves. -/
structure Output where
  exitCode : Nat := 0
  standard : String := ""
  errors : String := ""
  deriving DecidableEq

/-- Lines, each with its line end. -/
def unlines (lines : List String) : String :=
  String.join (lines.map fun line => line ++ "\n")

/-- The output of a command that could not do its work. -/
def failed (message : String) : Output where
  exitCode := 1
  errors := "Error: " ++ message ++ "\n"

/-- The lines of warnings. -/
def warningLines (messages : List String) : List String :=
  messages.map fun message => "warning: " ++ message

/-- The lines of errors. -/
def errorLines (messages : List String) : List String :=
  messages.map fun message => "error: " ++ message

/-- The text with spaces behind it, up to a width. -/
def padded (width : Nat) (text : String) : String :=
  text ++ String.ofList (List.replicate (width - text.length) ' ')

/-- What a listing tells about the target that a hook needs. -/
def neededTarget : Trigger.Scope → String
  | .global => ""
  | .npc => " [npc id]"
  | .quest => " [quest id]"

/-- The lines of a listing on one hook. -/
def hookLines (hook : Trigger.Hook) : List String := [
  padded 32 hook.action ++ " " ++ padded 7 hook.scope.label ++ " " ++ hook.signature ++
    neededTarget hook.scope,
  "    " ++ hook.description]

/-- The listing of hooks, of one scope or of all. -/
def listTriggers (scope : Option Trigger.Scope) : Output :=
  let hooks :=
    match scope with
    | some scope => Trigger.hooksOf scope
    | none => Trigger.catalog
  { standard := unlines (hooks.flatMap hookLines) }

/-- The output on a checked project. -/
def checkOutput (path : Path) (report : Generation.Inspection) : Output :=
  let warnings := warningLines (report.warnings.map Quest.Warning.message)
  match report.errors with
  | [] =>
      let verdict :=
        path.text ++ ": ok (" ++ toString report.warnings.length ++ " warning(s))"
      { standard := unlines (warnings ++ [verdict]) }
  | errors =>
      { exitCode := 1, standard := unlines warnings, errors := unlines (errorLines errors) }

/-- Checks the project of a blueprint file. -/
def check (path : Path) : Program Output := do
  match ← Project.load path with
  | .error failure => return failed failure.message
  | .ok project => return checkOutput path (Generation.inspect project)

/-- The output on a generated project. -/
def generateOutput (result : Generation.Result) : Output :=
  let outcome := result.outcome
  let verdict :=
    (if result.success then "done" else "failed") ++ ": " ++
      toString outcome.generatedFiles.length ++ " file(s), " ++
      toString outcome.warnings.length ++ " warning(s), " ++
      toString outcome.errors.length ++ " error(s)"
  { exitCode := if result.isClean then 0 else 1
    standard :=
      unlines ((outcome.generatedFiles.map fun path => "  " ++ path.text) ++
        warningLines (outcome.warnings.map Generation.RunWarning.message) ++ [verdict])
    errors := unlines (errorLines (outcome.errors.map Generation.RunError.message)) }

/-- The settings of a settings file, or the defaults when there is none. -/
def settingsOf : Option Path → Program (Except Settings.LoadFailure Settings)
  | some path => Settings.load path
  | none => return .ok {}

/-- Generates the project of a blueprint file. -/
def generate (path : Path) (settingsPath output : Option Path) : Program Output := do
  match ← Project.load path with
  | .error failure => return failed failure.message
  | .ok project =>
      match ← settingsOf settingsPath with
      | .error failure => return failed failure.message
      | .ok settings =>
          let settings :=
            { settings with outputDirectory := output.getD settings.outputDirectory }
          return generateOutput (← Generation.generate project settings)

/-- The text on how to use the program. -/
def usage : String :=
  unlines [
    "Usage: questforge <COMMAND>",
    "",
    "Commands:",
    "  generate <PROJECT> [--config <CONFIG>] [--out <OUT>]",
    "  check <PROJECT>",
    "  triggers [--scope <SCOPE>]"]

/-- The output for a mistake in the arguments. -/
def UsageError.output (_ : UsageError) : Output where
  exitCode := 2
  errors := usage

/-- The program's version. -/
def versionLine : String :=
  "questforge_codegen " ++ Source.generatorVersion ++ "\n"

/-- Runs a command. -/
def Command.run : Command → Program Output
  | .generate project settings output => CommandLine.generate project settings output
  | .check project => CommandLine.check project
  | .triggers scope => return listTriggers scope

/-- Runs the program with its arguments. -/
def run (arguments : List String) : Program Output :=
  match readArguments arguments with
  | .error error => return error.output
  | .ok .version => return { standard := versionLine }
  | .ok .help => return { standard := usage }
  | .ok (.command command) => command.run

end CommandLine
end QuestMod
