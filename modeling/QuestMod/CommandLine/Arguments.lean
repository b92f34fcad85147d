import QuestMod.Path.Basic
import QuestMod.Trigger.Catalog

/-!
# Command-line arguments

The first argument names a command; options and files follow in any order. An option
takes its value behind an equals sign or as the next argument, and may stand only once.
Behind a double dash every argument is a file. Arguments are read from left to right,
and the first mistake or request for help ends the reading.
-/

namespace QuestMod
namespace CommandLine

/-- What the program is asked to do. -/
inductive Command
  | generate (project : Path) (settings output : Option Path)
  | check (project : Path)
  | triggers (scope : Option Trigger.Scope)
  deriving DecidableEq

/-- How a usable command line goes on. -/
inductive Invocation
  | command (command : Command)
  | version
  | help
  deriving DecidableEq

/-- Mistakes of a command line. -/
inductive UsageError
  | noCommand
  | unknownCommand (argument : String)
  | unexpected (argument : String)
  | missingValue (option : String)
  | badValue (option value : String)
  | repeated (option : String)
  | missingFile
  deriving DecidableEq

/-- A value that an argument may have. -/
inductive ValueKind
  | path
  | scope
  deriving DecidableEq

/-- The scope with a name. -/
def scopeOf? (name : String) : Option Trigger.Scope :=
  [Trigger.Scope.global, .npc, .quest].find? fun scope => scope.label == name

/-- The value may stand where the kind is expected. -/
def ValueKind.accepts : ValueKind → String → Bool
  | .path, value => !value.isEmpty
  | .scope, value => (scopeOf? value).isSome

/-- What a command takes: options with the kinds of their values, and whether it takes a
file. -/
structure Grammar where
  options : List (String × ValueKind)
  takesFile : Bool

/-- Arguments read so far. -/
structure Collected where
  options : List (String × String) := []
  file : Option String := none

/-- How reading the arguments of a command ends. -/
inductive Reading
  | done (collected : Collected)
  | help
  | mistake (error : UsageError)

namespace Grammar

/-- Takes the value of an option. -/
def takeValue (grammar : Grammar) (collected : Collected) (option value : String) :
    Except UsageError Collected :=
  match grammar.options.lookup option with
  | none => .error (.unexpected option)
  | some kind =>
      if !kind.accepts value then .error (.badValue option value)
      else if (collected.options.lookup option).isSome then .error (.repeated option)
      else .ok { collected with options := (option, value) :: collected.options }

/-- Takes a file. -/
def takeFile (grammar : Grammar) (collected : Collected) (file : String) :
    Except UsageError Collected :=
  if !grammar.takesFile || collected.file.isSome then .error (.unexpected file)
  else if file.isEmpty then .error (.badValue "file" file)
  else .ok { collected with file := some file }

/-- Name and value of an option that is written with an equals sign. -/
def splitEquals (argument : String) : String × Option String :=
  let characters := argument.toList
  let name := String.ofList (characters.takeWhile (· != '='))
  match characters.dropWhile (· != '=') with
  | _ :: value => (name, some (String.ofList value))
  | [] => (name, none)

/-- Reads files behind a double dash. -/
def readFiles (grammar : Grammar) : List String → Collected → Reading
  | [], collected => .done collected
  | argument :: arguments, collected =>
      match grammar.takeFile collected argument with
      | .ok collected => grammar.readFiles arguments collected
      | .error error => .mistake error

/-- Reads the arguments of a command. -/
def read (grammar : Grammar) : List String → Collected → Reading
  | [], collected => .done collected
  | argument :: arguments, collected =>
      if argument = "--" then grammar.readFiles arguments collected
      else if argument.startsWith "--" then
        match splitEquals argument with
        | ("--help", none) => .help
        | (option, some value) =>
            match grammar.takeValue collected option value with
            | .ok collected => grammar.read arguments collected
            | .error error => .mistake error
        | (option, none) =>
            if (grammar.options.lookup option).isNone then .mistake (.unexpected option)
            else
              match arguments with
              | [] => .mistake (.missingValue option)
              | value :: arguments =>
                  if value.startsWith "-" && value != "-" then .mistake (.missingValue option)
                  else
                    match grammar.takeValue collected option value with
                    | .ok collected => grammar.read arguments collected
                    | .error error => .mistake error
      else if argument.startsWith "-h" then .help
      else if argument.startsWith "-" && argument != "-" then .mistake (.unexpected argument)
      else
        match grammar.takeFile collected argument with
        | .ok collected => grammar.read arguments collected
        | .error error => .mistake error

end Grammar

/-- Arguments of the command that generates a mod. -/
def generateGrammar : Grammar := ⟨[("--config", .path), ("--out", .path)], true⟩

/-- Arguments of the command that checks a blueprint. -/
def checkGrammar : Grammar := ⟨[], true⟩

/-- Arguments of the command that lists hooks. -/
def triggersGrammar : Grammar := ⟨[("--scope", .scope)], false⟩

/-- The value of an option, as a path. -/
def Collected.path? (collected : Collected) (option : String) : Option Path :=
  (collected.options.lookup option).map fun value : String => ⟨value⟩

/-- Reads the arguments of a command and makes the command of them. -/
def readCommand (grammar : Grammar) (arguments : List String)
    (make : Collected → Except UsageError Command) : Except UsageError Invocation :=
  match grammar.read arguments {} with
  | .done collected => (make collected).map .command
  | .help => .ok .help
  | .mistake error => .error error

/-- The command that works on a file, which must be given. -/
def withFile (collected : Collected) (make : Path → Command) : Except UsageError Command :=
  match collected.file with
  | some file => .ok (make ⟨file⟩)
  | none => .error .missingFile

/-- Names of the commands. -/
def commandNames : List String := ["generate", "check", "triggers", "help"]

/-- Reads a command line. -/
def readArguments : List String → Except UsageError Invocation
  | [] => .error .noCommand
  | "generate" :: arguments =>
      readCommand generateGrammar arguments fun collected =>
        withFile collected fun file =>
          .generate file (collected.path? "--config") (collected.path? "--out")
  | "check" :: arguments =>
      readCommand checkGrammar arguments fun collected => withFile collected .check
  | "triggers" :: arguments =>
      readCommand triggersGrammar arguments fun collected =>
        .ok (.triggers ((collected.options.lookup "--scope").bind scopeOf?))
  | ["help"] => .ok .help
  | "help" :: name :: arguments =>
      if !commandNames.contains name then .error (.unknownCommand name)
      else
        match arguments with
        | [] => .ok .help
        | argument :: _ => .error (.unknownCommand argument)
  | "--version" :: _ => .ok .version
  | "--help" :: _ => .ok .help
  | argument :: _ =>
      if argument.startsWith "-V" then .ok .version
      else if argument.startsWith "-h" then .ok .help
      else .error (.unknownCommand argument)

end CommandLine
end QuestMod
