import QuestMod.Number.Reading
import QuestMod.Quest.Resolution
import QuestMod.Quest.ReservedName
import QuestMod.Source.Literal
import QuestMod.Source.Member

/-!
# Saved data of a quest class

A quest may keep its own fields and one progress counter for each entry in a nested
class that is saved with the game. A default that does not fit the kind of its field
is replaced by the default of the kind, with a warning.
-/

namespace QuestMod
namespace Quest

open Blueprint (DataField DataKind)
open Source (Member NameSet block)

/-- The type of a kind of field. -/
def typeName : DataKind → String
  | .int => "int"
  | .float => "float"
  | .bool => "bool"
  | .text => "string"

/-- The literal of a kind's default; texts are empty. -/
def kindDefault : DataKind → String
  | .int => "0"
  | .float => "0f"
  | .bool => "false"
  | .text => Text.stringLiteral ""

/-- The literal of a written default, if it fits the kind. -/
def literalOf? (kind : DataKind) (written : String) : Option String :=
  match kind with
  | .int =>
      (Number.readInteger? written.toList).bind fun value =>
        if -0x80000000 ≤ value ∧ value < 0x80000000 then some (toString value) else none
  | .float =>
      (Number.Single.read? written.toList).bind fun value =>
        if value.isFinite then some (Source.singleLiteral value) else none
  | .bool => if written = "true" ∨ written = "false" then some written else none
  | .text => some (Text.stringLiteral written)

/-- The written default of a field. Blanks around it do not count, except in a
text. -/
def writtenDefault? (field : DataField) : Option String :=
  match field.kind with
  | .text => field.default
  | _ => field.default.bind Text.nonBlank?

/-- The literal of a field's default. -/
def defaultLiteral (field : DataField) : String :=
  match writtenDefault? field with
  | some written => (literalOf? field.kind written).getD (kindDefault field.kind)
  | none => kindDefault field.kind

/-- The warning of a field whose default does not fit. -/
def defaultWarning? (questId : String) (field : DataField) : Option Warning :=
  match writtenDefault? field with
  | some written =>
      if (literalOf? field.kind written).isNone then
        some (.unusableDefault questId field.name written (typeName field.kind))
      else none
  | none => none

/-- The name that a field asks for: its own made an identifier, or one with its
number. -/
def wantedField (index : Nat) (field : DataField) : String :=
  Source.usableIdentifier field.name ("field" ++ toString (index + 1))

/-- The declarations of fields whose first one has the given position. -/
def fieldMembers : Nat → List DataField → NameSet → List Member × NameSet
  | _, [], used => ([], used)
  | index, field :: fields, used =>
      let (name, used) := Source.chooseName (wantedField index field) used (index + 1)
      let (members, used) := fieldMembers (index + 1) fields used
      let text :=
        "public " ++ typeName field.kind ++ " " ++ name ++ " = " ++ defaultLiteral field ++ ";"
      (.onLine name text :: members, used)

/-- The progress counters of entries. -/
def counterMembers : List Entry → NameSet → List Member × NameSet
  | [], used => ([], used)
  | entry :: entries, used =>
      let (name, used) :=
        Source.chooseName (entry.variableName ++ "Progress") used (entry.index + 1)
      let (members, used) := counterMembers entries used
      (.onLine name ("public int " ++ name ++ ";") :: members, used)

/-- The class of a quest's saved data. -/
structure DataClass where
  name : String
  fields : List Member
  /-- Progress counters in the order of the entries. -/
  counters : List Member

/-- The class of saved data for a quest class. -/
def dataClass (quest : Blueprint.Quest) (className : String) (entries : List Entry) :
    DataClass :=
  let name := dataClassName className
  let (fields, used) := fieldMembers 0 quest.dataFields (.ofList [name])
  ⟨name, fields, (counterMembers entries used).1⟩

/-- The members of a quest class that hold its saved data. -/
def DataClass.groups (data : DataClass) : List (List Member) := [
  [⟨data.name,
    .line "[Serializable]" ::
      block ("public class " ++ data.name) (Source.groupSteps (data.fields ++ data.counters))⟩],
  [⟨"_data", [
    .line ("[SaveableField(\"" ++ data.name ++ "\")]"),
    .line ("private " ++ data.name ++ " _data = new " ++ data.name ++ "();")]⟩],
  [.onLine "Data" ("public " ++ data.name ++ " Data => _data;")]]

end Quest
end QuestMod
