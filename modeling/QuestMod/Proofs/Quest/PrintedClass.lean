import QuestMod.Proofs.Quest.ClassSteps
import QuestMod.Proofs.Quest.EntryTable

/-!
# Class files of quests

What the members of a quest class print is told of its file: the file is a sequence of token
trees, it shows the line ends of the quest's texts that have no escape, and the names and blocks
of its members are read off the outline of its source. The documentation comment shows besides
the line ends that stand inside of a line of the description.
-/

namespace QuestMod
namespace Quest

open Source (AreDeclared Begins HasIdentifierForm IsDottedName IsLine Neat Outlines Shows classBody
  groupSteps namesDeclared)
open Text (IsOneLine Occurs Passes lineBreaks)

/-! ## Namespaces -/

/-- The namespace of a type with a dotted name is a dotted name. -/
theorem isDottedName_spaceOf
    {source : String}
    (dotted : IsDottedName source) :
    IsDottedName (spaceOf source) := by
  unfold spaceOf
  split
  · rename_i space type splits
    have dot : ".".toList = ['.'] := rfl
    rw [(Text.eq_of_splitLastDot splits).1, IsDottedName, String.toList_append,
      String.toList_append, dot, List.append_assoc, List.singleton_append,
      Text.splitAt_append_separator] at dotted
    exact fun segment member => dotted segment (List.mem_append_left _ member)
  · exact dotted

/-- The namespaces that quest classes use by themselves. -/
def ownUsings : List String := [
  "System", "System.Linq", "System.Reflection", "MelonLoader", "UnityEngine", "S1API.Entities",
  "S1API.Internal.Utils", "S1API.Items", "S1API.Leveling", "S1API.Money", "S1API.Quests",
  "S1API.Saveables"]

theorem isDottedName_of_mem_ownUsings : ∀ name ∈ ownUsings, IsDottedName name := by
  decide

theorem mem_subscriptionUsings
    {subscription : Subscription}
    {name : String}
    (member : name ∈ subscriptionUsings subscription) :
    name = spaceOf subscription.hook.source ∨ name ∈ ownUsings := by
  refine (List.mem_cons.1 member).imp_right fun targeted => ?_
  split at targeted
  · cases targeted
  · have own : ["System.Linq", "S1API.Entities"] ⊆ ownUsings := by decide
    exact own targeted
  · have own : ["System.Linq"] ⊆ ownUsings := by decide
    exact own targeted

/-- A quest class uses namespaces of its own, and those that declare its hooks. -/
theorem mem_usings
    {quest : Blueprint.Quest}
    {subscriptions : List Subscription}
    {hasIcon : Bool}
    {name : String}
    (member : name ∈ usings quest subscriptions hasIcon) :
    name ∈ ownUsings ∨
      ∃ subscription ∈ subscriptions, name = spaceOf subscription.hook.source := by
  simp only [usings, List.mem_append] at member
  rcases member with (((always | subscribed) | rewarded) | iconic) | saved
  · have own : ["System", "MelonLoader", "S1API.Quests", "UnityEngine"] ⊆ ownUsings := by decide
    exact .inl (own always)
  · obtain ⟨subscription, present, inUsings⟩ := List.mem_flatMap.1 subscribed
    rcases mem_subscriptionUsings inUsings with declaring | own
    · exact .inr ⟨subscription, present, declaring⟩
    · exact .inl own
  · obtain ⟨reward, _, rfl⟩ := List.mem_map.1 rewarded
    left
    cases reward <;> simp [rewardUsing, ownUsings]
  · have own : ["System.Reflection", "S1API.Internal.Utils"] ⊆ ownUsings := by decide
    split at iconic
    · exact .inl (own iconic)
    · cases iconic
  · have own : ["S1API.Saveables"] ⊆ ownUsings := by decide
    split at saved
    · exact .inl (own saved)
    · cases saved

/-- The namespaces of a quest class are dotted names. -/
theorem isDottedName_of_mem_usings (quest : Blueprint.Quest) (hasIcon : Bool) :
    ∀ name ∈ usings quest (subscriptions quest) hasIcon, IsDottedName name := by
  intro name member
  rcases mem_usings member with own | ⟨subscription, present, rfl⟩
  · exact isDottedName_of_mem_ownUsings name own
  · exact isDottedName_spaceOf (isWritable_of_mem_subscriptions present).source

theorem isDottedName_classSpace
    {root : String}
    (dotted : IsDottedName root) :
    IsDottedName (classSpace root) :=
  dotted.below (by decide)

/-- The class of a quest is declared under its name. -/
theorem isLine_declaration
    {className : String}
    (form : HasIdentifierForm className) :
    IsLine ("public class " ++ className ++ " : Quest") ("public class " ++ className ++ " : Quest")
      [] [] := by
  have front : Begins "public class " _ _ _ := .fixed (by rfl) (by decide)
  exact ((front.append (.name form)).append (.fixed (by rfl) (by decide))).isLine

/-! ## Shown texts -/

/-- The texts of a quest that stand in literals or comments of its class, and the name of
its icon. -/
def shownTexts (quest : Blueprint.Quest) (icon : Option String) : List String :=
  [quest.questId, quest.title, quest.description] ++ quest.objectives.map (·.title) ++
    (subscriptions quest).filterMap Subscription.target? ++
    quest.rewards.filterMap rewardItem? ++ textDefaults quest ++ icon.toList

/-- Entries have the titles of their objectives; the title of a placeholder is one
line. -/
theorem exists_passes_title_entries
    {c : Char}
    (isBreak : c ∈ lineBreaks)
    (objectives : List Blueprint.Objective)
    (used : Source.NameSet) :
    (∃ title ∈ (entries objectives used).1.map Entry.title, Passes c title) ↔
      ∃ title ∈ objectives.map (·.title), Passes c title := by
  unfold entries
  split
  · rename_i none
    simp (disch := decide) [List.isEmpty_iff.1 none, placeholder, placeholderTitle,
      Text.not_passes_fixed isBreak]
  · have titles : (entriesFrom 0 objectives used).1.map Entry.title =
        objectives.map (·.title) :=
      map_entriesFrom (fun _ _ _ => rfl) 0 objectives used
    rw [titles]

theorem exists_passes_memberTexts
    {c : Char}
    (isBreak : c ∈ lineBreaks)
    (quest : Blueprint.Quest)
    (icon : Option String)
    (className : String) :
    (∃ text ∈ memberTexts quest icon className, Passes c text) ↔
      ∃ text ∈ shownTexts quest icon, Passes c text := by
  have titles : (∃ title ∈ (resolveForClass quest className).entries.map Entry.title,
      Passes c title) ↔ ∃ title ∈ quest.objectives.map (·.title), Passes c title :=
    exists_passes_title_entries isBreak quest.objectives (memberScope className)
  unfold memberTexts shownTexts
  generalize (resolveForClass quest className).entries.map Entry.title = own at titles
  simp only [List.mem_append, List.mem_cons, List.not_mem_nil, or_false, or_and_right, exists_or,
    exists_eq_left, titles]
  grind

/-! ## Files -/

section

variable (quest : Blueprint.Quest) {className : String} (form : HasIdentifierForm className)
  (icon : Option String)

include form

/-- The class file of a quest is neat. -/
theorem neat_fileSteps
    {root : String}
    (dotted : IsDottedName root) :
    Neat (fileSteps quest className root icon) :=
  (printMembers_memberGroups quest icon form).neat_classSteps (isLine_declaration form) _ _ _
    (Source.isOneLine_ofList (by decide)) (isDottedName_of_mem_usings quest icon.isSome)
    (isDottedName_classSpace dotted)

/-- A quest's class file shows the line ends in its texts that have no escape, and those
inside of the trimmed lines of its description. -/
theorem shows_fileSteps
    {c : Char}
    (isBreak : c ∈ lineBreaks)
    {root : String}
    (rootLine : IsOneLine root) :
    Shows c (fileSteps quest className root icon) ↔
      (∃ line ∈ Text.lines quest.description, Occurs c (Text.trim line)) ∨
        ∃ text ∈ shownTexts quest icon, Passes c text := by
  have space : IsOneLine (classSpace root) :=
    Source.isOneLine_append rootLine (Source.isOneLine_ofList (by decide))
  have idAndTitle : Passes c quest.questId ∨ Passes c quest.title →
      ∃ text ∈ shownTexts quest icon, Passes c text := by
    rintro (id | title)
    · exact ⟨quest.questId, by simp [shownTexts], id⟩
    · exact ⟨quest.title, by simp [shownTexts], title⟩
  have kindLine : IsOneLine "quest" := Source.isOneLine_ofList (by decide)
  have shown := (printMembers_memberGroups quest icon form).shows_classSteps
    (isLine_declaration form) quest.questId quest.title quest.description isBreak kindLine
    (isDottedName_of_mem_usings quest icon.isSome) space
  rw [exists_passes_memberTexts isBreak] at shown
  refine shown.trans ?_
  constructor
  · rintro (id | (title | described) | texts)
    · exact .inr (idAndTitle (.inl id))
    · exact .inr (idAndTitle (.inr title))
    · exact .inl described
    · exact .inr texts
  · rintro (described | texts)
    · exact .inr (.inl (.inr described))
    · exact .inr (.inr texts)

/-- No text of a quest brings a line feed into its class file. -/
theorem not_shows_lineFeed_fileSteps
    {root : String}
    (rootLine : IsOneLine root) :
    ¬ Shows '\n' (fileSteps quest className root icon) := by
  rw [shows_fileSteps quest form icon (by decide) rootLine]
  rintro (⟨line, member, occurs⟩ | ⟨text, _, unicode, _⟩)
  · exact Text.newline_not_mem_of_mem_lines member (Text.mem_of_mem_trim occurs)
  · exact absurd unicode (by decide)

/-! ## Outlines -/

/-- Every member of a quest class is declared under its own name. -/
theorem areDeclared_memberGroups :
    AreDeclared (memberGroups quest className (resolveForClass quest className) icon).flatten :=
  (printMembers_memberGroups quest icon form).areDeclared

variable {root : String} (rootLine : IsOneLine root)

include rootLine

/-- The source of a quest class shows the outline of its members. -/
theorem outlines_classBody :
    Outlines
      (groupSteps (memberGroups quest className (resolveForClass quest className) icon).flatten)
      (classBody (classFile quest className root icon).source) := by
  obtain ⟨statements, outlines, _⟩ :=
    Source.exists_outline_of_areDeclared (areDeclared_memberGroups quest form icon)
  have body : classBody (classFile quest className root icon).source = statements :=
    Source.classBody_classSteps (Source.areRemarks_classHeader (by decide) quest.questId)
      (Source.areRemarks_summary quest.title quest.description) outlines.ofGroups
      (not_shows_lineFeed_fileSteps quest form icon rootLine)
  rw [body]
  exact outlines

/-- The names that the source of a quest class declares are those of its members. -/
theorem namesDeclared_classBody :
    namesDeclared (classBody (classFile quest className root icon).source) =
      Source.declaredNames
        (memberGroups quest className (resolveForClass quest className) icon) := by
  obtain ⟨statements, outlines, names, _⟩ :=
    Source.exists_outline_of_areDeclared (areDeclared_memberGroups quest form icon)
  rw [(outlines_classBody quest form icon rootLine).unique outlines, names,
    Source.declaredNames_eq_map]

end

end Quest
end QuestMod
