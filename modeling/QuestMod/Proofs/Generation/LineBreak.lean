import QuestMod.Proofs.Npc.PrintedClass
import QuestMod.Proofs.Quest.PrintedClass

/-!
# Line ends in class files

Besides the line feeds of the writer, a class file holds exactly the line ends that its
blueprint brings past the escapes. Those beyond ASCII come from every text that stands in
a literal or a comment. A carriage return comes only from the description of a quest, out
of the middle of one of its lines: the lines of the documentation comment are trimmed and
written as markup, while its title is also made the body of a comment.
-/

namespace QuestMod
namespace Generation

open Source (HasIdentifierForm HasLineEnds IsDottedName Shows lineCount)

variable {className root : String}

/-- The line ends of a quest's class file. -/
theorem hasLineEnds_questFile
    (form : HasIdentifierForm className)
    (dotted : IsDottedName root)
    (quest : Blueprint.Quest)
    (icon : Option String) :
    HasLineEnds (Quest.classFile quest className root icon).source
      (lineCount (Quest.fileSteps quest className root icon))
      (∃ line ∈ Text.lines quest.description, '\r' ∈ (Text.trim line).toList)
      (Quest.shownTexts quest icon) := by
  refine Source.hasLineEnds_render
    (fun c isBreak => Quest.shows_fileSteps quest form icon isBreak dotted.isOneLine) ?_ ?_
  · rintro ⟨line, member, occurs⟩
    exact Text.newline_not_mem_of_mem_lines member (Text.mem_of_mem_trim occurs)
  · rintro c ⟨line, member, occurs⟩
    refine ⟨quest.description, by simp [Quest.shownTexts], ?_⟩
    exact Text.mem_of_mem_line member (Text.mem_of_mem_trim occurs)

/-- The line ends of a character's class file. -/
theorem hasLineEnds_npcFile
    (form : HasIdentifierForm className)
    (dotted : IsDottedName root)
    (npc : Blueprint.Npc) :
    HasLineEnds (Npc.classFile npc className root).source
      (lineCount (Npc.fileSteps npc className root)) False (Npc.shownTexts npc) := by
  have shows : ∀ c ∈ Text.lineBreaks, Shows c (Npc.fileSteps npc className root) ↔
      False ∨ ∃ text ∈ Npc.shownTexts npc, Text.Passes c text := by
    intro c isBreak
    rw [Npc.shows_fileSteps npc form dotted isBreak, false_or]
  exact Source.hasLineEnds_render shows id fun _ => False.elim

/-- Under a class name with the form of an identifier and below a root that is a dotted
name, class files hold the line ends that their blueprints bring past the escapes, and no
others. -/
theorem hasLineEnds_classFiles
    (form : HasIdentifierForm className)
    (dotted : IsDottedName root) :
    (∀ (quest : Blueprint.Quest) (icon : Option String),
      HasLineEnds (Quest.classFile quest className root icon).source
        (lineCount (Quest.fileSteps quest className root icon))
        (∃ line ∈ Text.lines quest.description, '\r' ∈ (Text.trim line).toList)
        (Quest.shownTexts quest icon)) ∧
      ∀ npc : Blueprint.Npc,
        HasLineEnds (Npc.classFile npc className root).source
          (lineCount (Npc.fileSteps npc className root)) False (Npc.shownTexts npc) :=
  ⟨hasLineEnds_questFile form dotted, hasLineEnds_npcFile form dotted⟩

/-- A quest whose description has a carriage return between two words. -/
def brokenDescription : Blueprint.Quest where
  className := "Lantern"
  questId := "lantern"
  title := "The lantern"
  description := "Find it.\rBring it."

/-- Other line ends than the writer's stand in class files just as the blueprints have
them. -/
theorem hasLineEnds_lantern :
    HasIdentifierForm "Lantern" ∧ IsDottedName "Mod" ∧
      '\r' ∈ (Quest.classFile brokenDescription "Lantern" "Mod" none).source.toList ∧
      '\u2028' ∉ (Quest.classFile brokenDescription "Lantern" "Mod" none).source.toList := by
  have quests : ∀ (quest : Blueprint.Quest) (icon : Option String),
      HasLineEnds (Quest.classFile quest "Lantern" "Mod" icon).source
        (lineCount (Quest.fileSteps quest "Lantern" "Mod" icon))
        (∃ line ∈ Text.lines quest.description, '\r' ∈ (Text.trim line).toList)
        (Quest.shownTexts quest icon) :=
    (hasLineEnds_classFiles (by decide) (by decide)).1
  have lineEnds := quests brokenDescription none
  refine ⟨by decide, by decide, lineEnds.return_iff.2 (by decide), ?_⟩
  rw [lineEnds.unicode_iff '\u2028' (by decide)]
  decide

/-- The carriage return of a description ends a line of its documentation comment. -/
theorem brokenDescription_ends_comment :
    ¬ ∀ (quest : Blueprint.Quest) (className root : String) (icon : Option String),
      HasIdentifierForm className → IsDottedName root →
        ∀ c ∈ '\r' :: Text.unicodeBreaks,
          c ∉ (Quest.classFile quest className root icon).source.toList := by
  intro kept
  have absent := kept brokenDescription "Lantern" "Mod" none (by decide) (by decide) '\r'
    List.mem_cons_self
  rw [(hasLineEnds_questFile (by decide) (by decide) brokenDescription none).return_iff] at absent
  exact absent (by decide)

end Generation
end QuestMod
