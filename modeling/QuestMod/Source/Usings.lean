import QuestMod.Text.Blank
import QuestMod.Source.NameSet

/-!
# Using directives

The namespaces that a source file uses, without repetitions. They are written in
code point order, one directive a line.
-/

namespace QuestMod
namespace Source

/-- The namespaces of a list of names. Names are trimmed and blank names are left
out. -/
def usedNamespaces (names : List String) : NameSet :=
  .ofList (names.filterMap Text.nonBlank?)

/-- The using directive of a namespace. -/
def usingDirective (space : String) : String :=
  "using " ++ space ++ ";\n"

/-- The using directives for a list of names. -/
def usingDirectives (names : List String) : String :=
  String.join ((usedNamespaces names).sorted.map usingDirective)

end Source
end QuestMod
