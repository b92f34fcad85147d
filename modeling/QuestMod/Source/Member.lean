import QuestMod.Source.Writer

/-!
# Members of generated classes

A class body is a list of groups with a blank line between neighbours. A group holds
members, and each member knows the name that it declares, so the names of a class can
be compared without reading its text.
-/

namespace QuestMod
namespace Source

/-- A declaration of a class: its name and the steps that write it. -/
structure Member where
  name : String
  steps : List Step
  deriving DecidableEq

namespace Member

/-- A member that is written on one line. -/
def onLine (name text : String) : Member :=
  ⟨name, [.line text]⟩

/-- A member with a header and a body. -/
def withBody (name header : String) (body : List Step) : Member :=
  ⟨name, block header body⟩

end Member

/-- The steps of a group of members. -/
def groupSteps (members : List Member) : List Step :=
  members.flatMap Member.steps

/-- The steps of groups with a blank line between neighbours. -/
def bodySteps : List (List Member) → List Step
  | [] => []
  | [group] => groupSteps group
  | group :: groups => groupSteps group ++ .blank :: bodySteps groups

/-- The names that groups of members declare. -/
def declaredNames (groups : List (List Member)) : List String :=
  groups.flatMap fun group => group.map Member.name

/-- The text of groups of members. -/
def renderGroups (groups : List (List Member)) : String :=
  render (bodySteps groups)

end Source
end QuestMod
