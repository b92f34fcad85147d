import QuestMod.Source.Usings
import QuestMod.Source.Writer

/-!
# Files of generated classes

A class file opens with a header comment and its using directives, and holds one class
in a namespace. Files are named after their classes.
-/

namespace QuestMod
namespace Source

/-- The generator's version, as headers state it. -/
def generatorVersion : String := "0.4.0"

/-- A file with one generated class. -/
structure ClassFile where
  className : String
  /-- Namespace of the class. -/
  space : String
  source : String
  deriving DecidableEq

/-- Extension of generated class files. -/
def sourceExtension : String := "cs"

/-- The name of the file for a class. -/
def sourceFileName (className : String) : String :=
  className ++ "." ++ sourceExtension

/-- The name of the file. -/
def ClassFile.fileName (file : ClassFile) : String :=
  sourceFileName file.className

/-- The comment at the front of a generated file, with what is known about its
origin. -/
def headerComment (provenance : String) : List Step := [
  .line "// <auto-generated>",
  .line ("//     Generated by questforge " ++ generatorVersion ++ provenance ++ "."),
  .line "//     Changes to this file are overwritten on the next generation run.",
  .line "// </auto-generated>"]

/-- The header of a class file. It names the blueprint part that the class is made
from. -/
def classHeader (kind id : String) : List Step :=
  headerComment (" from " ++ kind ++ " '" ++ Text.commentBody id ++ "'")

/-- The documentation comment of a class: its title, and the non-blank lines of its
description. -/
def summary (title description : String) : List Step :=
  .line "/// <summary>" ::
    .line ("/// " ++ Text.markup (Text.commentBody title)) ::
    (((Text.lines description).filter fun line => !Text.isBlankText line).map fun line =>
      .line ("/// " ++ Text.markup (Text.trim line))) ++
    [.line "/// </summary>"]

/-- The using directives as steps. -/
def usingSteps (names : List String) : List Step :=
  (usedNamespaces names).sorted.map fun space => .line ("using " ++ space ++ ";")

/-- A class in a namespace, below a header and its using directives. -/
def classSteps (header : List Step) (usings : List String) (space : String)
    (documentation : List Step) (declaration : String) (body : List Step) : List Step :=
  header ++ usingSteps usings ++ .blank ::
    block ("namespace " ++ space) (documentation ++ block declaration body)

end Source
end QuestMod
