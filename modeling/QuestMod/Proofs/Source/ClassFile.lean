import QuestMod.Source.ClassFile
import QuestMod.Source.Member
import QuestMod.Proofs.Source.NameSet
import QuestMod.Proofs.Source.NeatSteps

/-!
# Class files are neat

The parts that all generated files share: the header comment, the documentation
comment, the using directives and the frame around a class. Text of a blueprint stands
only in comments here. What the members of a class write stands in its file.
-/

namespace QuestMod
namespace Source

/-! ## Headers and documentation -/

/-- The header comment is a comment when what it tells of the origin is one line. -/
theorem areRemarks_headerComment
    {provenance : String}
    (absent : '\n' ∉ provenance.toList) :
    AreRemarks (headerComment provenance) := by
  have generated : IsRemark
      ("//     Generated by questforge " ++ generatorVersion ++ provenance ++ ".") := by
    refine (((isRemark_ofList (by decide)).append ?_).append absent).append ?_
    · decide
    · decide
  simp only [AreRemarks, headerComment, List.forall_mem_cons]
  exact ⟨⟨_, rfl, isRemark_ofList (by decide)⟩, ⟨_, rfl, generated⟩,
    ⟨_, rfl, isRemark_ofList (by decide)⟩, ⟨_, rfl, isRemark_ofList (by decide)⟩,
    List.forall_mem_nil _⟩

theorem areRemarks_classHeader
    {kind : String}
    (absent : '\n' ∉ kind.toList)
    (id : String) :
    AreRemarks (classHeader kind id) := by
  refine areRemarks_headerComment ?_
  have idBody := Text.newline_not_mem_commentBody id
  have front : '\n' ∉ " from ".toList := by decide
  have quote : '\n' ∉ " '".toList := by decide
  have endQuote : '\n' ∉ "'".toList := by decide
  simp only [String.toList_append, List.mem_append, not_or]
  exact ⟨⟨⟨⟨front, absent⟩, quote⟩, idBody⟩, endQuote⟩

/-- The documentation comment is a comment, whatever title and description are. -/
theorem areRemarks_summary (title description : String) :
    AreRemarks (summary title description) := by
  have titleRemark : IsRemark ("/// " ++ Text.markup (Text.commentBody title)) :=
    (isRemark_ofList (by decide)).append
      (Text.newline_not_mem_markup (Text.newline_not_mem_commentBody title))
  have lineRemark : ∀ line ∈ Text.lines description,
      IsRemark ("/// " ++ Text.markup (Text.trim line)) := by
    intro line member
    refine (isRemark_ofList (by decide)).append (Text.newline_not_mem_markup fun inside => ?_)
    exact Text.newline_not_mem_of_mem_lines member (Text.mem_of_mem_trim inside)
  simp only [AreRemarks, summary, List.forall_mem_cons, List.forall_mem_append]
  refine ⟨⟨⟨_, rfl, isRemark_ofList (by decide)⟩, ⟨_, rfl, titleRemark⟩, ?_⟩,
    ⟨_, rfl, isRemark_ofList (by decide)⟩, List.forall_mem_nil _⟩
  intro step member
  obtain ⟨line, isShown, rfl⟩ := List.mem_map.1 member
  exact ⟨_, rfl, lineRemark line (List.mem_filter.1 isShown).1⟩

/-! ## Using directives -/

/-- A used namespace is one of the names without the blank characters around it. -/
theorem exists_eq_trim_of_mem_usedNamespaces
    {names : List String}
    {space : String}
    (member : space ∈ (usedNamespaces names).sorted) :
    ∃ name ∈ names, space = Text.trim name := by
  rw [NameSet.sorted, List.mem_mergeSort, usedNamespaces, NameSet.mem_ofList,
    List.mem_filterMap] at member
  obtain ⟨name, inNames, nonBlank⟩ := member
  exact ⟨name, inNames, Text.nonBlank?_eq_some nonBlank⟩

theorem isWord_of_mem_usedNamespaces
    {names : List String}
    (words : ∀ name ∈ names, IsWord name) :
    ∀ space ∈ (usedNamespaces names).sorted, IsWord space := by
  intro space member c inside
  obtain ⟨name, inNames, rfl⟩ := exists_eq_trim_of_mem_usedNamespaces member
  exact words name inNames c (Text.mem_of_mem_trim inside)

/-- Using directives of words are neat. -/
theorem neat_usingSteps
    {names : List String}
    (words : ∀ name ∈ names, IsWord name) :
    Neat (usingSteps names) := by
  refine .mapLine fun space member => ?_
  intro closers
  simp (disch := decide) [(isWord_of_mem_usedNamespaces words space member).isCode]

/-! ## Classes -/

/-- A class file is neat when its parts are. -/
theorem neat_classSteps
    {header documentation body : List Step}
    {usings : List String}
    {space declaration : String}
    (headerNeat : Neat header)
    (words : ∀ name ∈ usings, IsWord name)
    (dotted : IsDottedName space)
    (documentationNeat : Neat documentation)
    (declarationCode : IsCode declaration)
    (bodyNeat : Neat body) :
    Neat (classSteps header usings space documentation declaration body) := by
  have named : IsCode ("namespace " ++ space) :=
    ((isWord_ofList (by decide)).append dotted.isWord).isCode
  refine (headerNeat.append (neat_usingSteps words)).append (.blank ?_)
  exact .block named (documentationNeat.append (.block declarationCode bodyNeat))

/-! ## Steps of a file -/

theorem mem_block
    {header : String}
    {body : List Step}
    {step : Step}
    (member : step ∈ body) :
    step ∈ block header body := by
  simp [block, member]

/-- A class body holds the steps of its members. -/
theorem mem_bodySteps
    {groups : List (List Member)}
    (group : List Member)
    (inGroups : group ∈ groups)
    {member : Member}
    (inGroup : member ∈ group)
    {step : Step}
    (inSteps : step ∈ member.steps) :
    step ∈ bodySteps groups := by
  have inGroupSteps : step ∈ groupSteps group := List.mem_flatMap.2 ⟨member, inGroup, inSteps⟩
  fun_induction bodySteps groups with
  | case1 => cases inGroups
  | case2 only =>
      rw [List.mem_singleton.1 inGroups] at inGroupSteps
      exact inGroupSteps
  | case3 first rest _ ih =>
      rcases List.mem_cons.1 inGroups with rfl | inRest
      · exact List.mem_append_left _ inGroupSteps
      · exact List.mem_append_right _ (List.mem_cons_of_mem _ (ih inRest))

/-- A class file holds the steps of its body. -/
theorem mem_classSteps
    {header documentation body : List Step}
    {usings : List String}
    {space declaration : String}
    {step : Step}
    (inBody : step ∈ body) :
    step ∈ classSteps header usings space documentation declaration body := by
  refine List.mem_append_right _ (List.mem_cons_of_mem _ (mem_block ?_))
  exact List.mem_append_right _ (mem_block inBody)

end Source
end QuestMod
