import QuestMod.Proofs.Quest.PrintedClass

/-!
# The flag of a quest class

The class of a quest declares by one line of code whether the quest begins by itself. Reading
the source from its front, that line is the first one with the property, whatever texts stand
in literals and comments in front of it.
-/

namespace QuestMod
namespace Quest

open Source (HasIdentifierForm IsDottedName LineReads Member Reads Step StepsRead codeLines departs
  departs_append not_prefix_of_departs)
open Text (IsOneLine)

/-! ## Reading the flag -/

/-- The line of code that declares a flag. -/
def flagCode (flag : Bool) : String :=
  if flag then "protected override bool AutoBegin => true;"
  else "protected override bool AutoBegin => false;"

/-- The flag that a line of code declares. -/
def flagOf? (line : String) : Option Bool :=
  if line = flagCode true then some true
  else if line = flagCode false then some false
  else none

/-- The flag that the first line with one declares. -/
def autoBegin? (source : String) : Option Bool :=
  (codeLines source).findSome? flagOf?

theorem flagOf?_flagCode (flag : Bool) : flagOf? (flagCode flag) = some flag := by
  cases flag <;> simp [flagOf?, flagCode]

theorem exists_flagCode_eq (flag : Bool) :
    ∃ rest, flagCode flag = String.ofList ['p', 'r'] ++ rest := by
  cases flag with
  | false => exact ⟨"otected override bool AutoBegin => false;", by decide⟩
  | true => exact ⟨"otected override bool AutoBegin => true;", by decide⟩

/-- A line whose front is that of no flag declares none. -/
theorem flagOf?_append_eq_none
    {front : List Char}
    (apart : departs front ['p', 'r'] = true)
    (rest : String) :
    flagOf? (String.ofList front ++ rest) = none := by
  have different (flag : Bool) : String.ofList front ++ rest ≠ flagCode flag := by
    intro same
    obtain ⟨tail, begins⟩ := exists_flagCode_eq flag
    have spelled := congrArg String.toList (same.trans begins)
    rw [String.toList_append, String.toList_append, String.toList_ofList,
      String.toList_ofList] at spelled
    exact not_prefix_of_departs (departs_append apart tail.toList) ⟨_, spelled⟩
  rw [flagOf?, if_neg (different true), if_neg (different false)]

/-- Whatever follows the steps, a reader finds the flag in them. -/
def SetsFlag (steps : List Step) (flag : Bool) : Prop :=
  ∀ depth rest, autoBegin? (Source.renderAt depth steps ++ rest) = some flag

namespace SetsFlag

variable {steps others : List Step} {code : List String} {flag : Bool} {text lineCode : String}

/-- Code without a flag may stand in front. -/
theorem behind
    (reads : StepsRead steps code)
    (silent : ∀ line ∈ code, flagOf? line = none)
    (sets : SetsFlag others flag) :
    SetsFlag (steps ++ others) flag := by
  intro depth rest
  rw [Source.renderAt_append, String.append_assoc, autoBegin?, reads, List.findSome?_append,
    List.findSome?_eq_none_iff.2 silent, Option.none_or]
  exact sets _ rest

/-- Anything may stand behind. -/
theorem before (sets : SetsFlag steps flag) (others : List Step) :
    SetsFlag (steps ++ others) flag := by
  intro depth rest
  rw [Source.renderAt_append, String.append_assoc]
  exact sets depth _

theorem line (reads : LineReads text (flagCode flag)) : SetsFlag [.line text] flag := by
  have single : StepsRead [.line text] [flagCode flag] := .line reads .nil
  intro depth rest
  rw [autoBegin?, single, List.singleton_append, List.findSome?_cons, flagOf?_flagCode]

theorem block
    (header : LineReads text lineCode)
    (silent : flagOf? lineCode = none)
    (body : SetsFlag steps flag) :
    SetsFlag (Source.block text steps) flag := by
  have opens : StepsRead [.openBlock text] [lineCode, "\x7b"] := .opened header .nil
  have brace : flagOf? "\x7b" = none := by simp [flagOf?, flagCode]
  have whole := behind opens (by simp [silent, brace]) (body.before [.closeBlock ""])
  exact whole

/-- The flag in the text of the steps. -/
theorem autoBegin?_render (sets : SetsFlag steps flag) :
    autoBegin? (Source.render steps) = some flag := by
  have whole := sets 0 ""
  rwa [String.append_empty] at whole

end SetsFlag

/-! ## The flag of a class -/

/-- The line of a flag is the code that declares it. -/
theorem lineReads_autoBegin (flag : Bool) :
    LineReads ("protected override bool AutoBegin => " ++ Source.boolLiteral flag ++ ";")
      (flagCode flag) := by
  have spelled : "protected override bool AutoBegin => " ++ Source.boolLiteral flag ++ ";" =
      flagCode flag := by
    cases flag <;> decide
  rw [← spelled]
  exact (isLine_autoBegin flag).lineReads

/-- The code of the constants. -/
def constantsCode : List String :=
  ["public const string QuestId = \"\";", "public const string QuestTitle = \"\";"]

/-- The code of the properties in front of the flag. -/
def propertiesFront : List String :=
  ["protected override string Title => QuestTitle;",
    "protected override string Description => \"\";"]

theorem stepsRead_constantMembers (quest : Blueprint.Quest) :
    StepsRead (Source.groupSteps (constantMembers quest)) constantsCode :=
  .line (isLine_questId quest).lineReads (.line (isLine_questTitle quest).lineReads .nil)

/-- The properties of a quest's class set its flag. -/
theorem setsFlag_propertyMembers (quest : Blueprint.Quest) :
    SetsFlag (Source.groupSteps (propertyMembers quest)) quest.beginsItself := by
  have silent : ∀ line ∈ propertiesFront, flagOf? line = none := by
    simp [propertiesFront, flagOf?, flagCode]
  have front := StepsRead.line isLine_title.lineReads
    (.line (isLine_description quest).lineReads .nil)
  have sets := SetsFlag.behind front silent (.line (lineReads_autoBegin quest.beginsItself))
  exact sets.before _

/-- A class body that begins with the constants and the properties sets the flag. -/
theorem setsFlag_bodySteps (quest : Blueprint.Quest) (groups : List (List Member)) :
    SetsFlag (Source.bodySteps (constantMembers quest :: propertyMembers quest :: groups))
      quest.beginsItself := by
  have silent : ∀ line ∈ constantsCode ++ [], flagOf? line = none := by
    simp [constantsCode, flagOf?, flagCode]
  have blank : StepsRead [.blank] [] := .blank .nil
  have front := (stepsRead_constantMembers quest).append blank
  have properties : SetsFlag (Source.bodySteps (propertyMembers quest :: groups))
      quest.beginsItself := by
    cases groups with
    | nil => exact setsFlag_propertyMembers quest
    | cons group others => exact (setsFlag_propertyMembers quest).before _
  have whole := SetsFlag.behind front silent properties
  rw [List.append_assoc] at whole
  exact whole

/-- The using directives of dotted names are lines of code. -/
theorem stepsRead_usingSteps
    {names : List String}
    (dotted : ∀ name ∈ names, IsDottedName name) :
    StepsRead (Source.usingSteps names)
      ((Source.usedNamespaces names).sorted.map fun space => "using " ++ space ++ ";") := by
  have words : ∀ name ∈ names, Source.IsWord name := fun name member =>
    (dotted name member).isWord
  have lines : ∀ name ∈ names, IsOneLine name := fun name member => (dotted name member).isOneLine
  refine .mapLine fun space member => ?_
  have word : Reads space space := .word (Source.isWord_of_mem_usedNamespaces words space member)
    (Source.isOneLine_of_mem_usedNamespaces lines space member)
  exact ((LineReads.fixed (by decide) (by decide)).append word).append (.fixed (by decide))

theorem flagOf?_using (space : String) : flagOf? ("using " ++ space ++ ";") = none := by
  rw [String.append_assoc]
  exact flagOf?_append_eq_none (by decide) _

/-- The source of a quest's class declares whether the quest begins by itself. -/
theorem autoBegin?_source
    (quest : Blueprint.Quest)
    {className root : String}
    (form : HasIdentifierForm className)
    (dotted : IsDottedName root)
    (icon : Option String) :
    autoBegin? (classFile quest className root icon).source = some quest.beginsItself := by
  have header : StepsRead (Source.classHeader "quest" quest.questId) [] :=
    .ofRemarks (Source.areRemarks_classHeader (by decide) quest.questId)
  have documentation : StepsRead (Source.summary quest.title quest.description) [] :=
    .ofRemarks (Source.areRemarks_summary quest.title quest.description)
  have below := isDottedName_classSpace dotted
  have space : LineReads ("namespace " ++ classSpace root) ("namespace " ++ classSpace root) :=
    (LineReads.fixed (by decide) (by decide)).append (.word below.isWord below.isOneLine)
  have declaration : LineReads ("public class " ++ className ++ " : Quest")
      ("public class " ++ className ++ " : Quest") :=
    ((LineReads.fixed (by decide) (by decide)).append (.name form)).append (.fixed (by decide))
  have silentSpace : flagOf? ("namespace " ++ classSpace root) = none :=
    flagOf?_append_eq_none (by decide) _
  have silentDeclaration : flagOf? ("public class " ++ className ++ " : Quest") = none := by
    rw [String.append_assoc]
    exact flagOf?_append_eq_none (by decide) _
  have body : SetsFlag (Source.bodySteps
      (memberGroups quest className (resolveForClass quest className) icon)) quest.beginsItself :=
    setsFlag_bodySteps quest _
  have inClass := SetsFlag.block declaration silentDeclaration body
  have inSpace := SetsFlag.block space silentSpace
    (.behind documentation (List.forall_mem_nil _) inClass)
  have blank : StepsRead [.blank] [] := .blank .nil
  have behindBlank := SetsFlag.behind blank (List.forall_mem_nil _) inSpace
  have front := header.append
    (stepsRead_usingSteps (isDottedName_of_mem_usings quest icon.isSome))
  have silentFront : ∀ line ∈ [] ++ (Source.usedNamespaces (usings quest
      (resolveForClass quest className).subscriptions icon.isSome)).sorted.map
        fun space => "using " ++ space ++ ";", flagOf? line = none := by
    intro line member
    obtain ⟨space, _, rfl⟩ := List.mem_map.1 member
    exact flagOf?_using space
  have whole := SetsFlag.behind front silentFront behindBlank
  exact whole.autoBegin?_render

end Quest
end QuestMod
