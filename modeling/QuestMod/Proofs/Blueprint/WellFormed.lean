import QuestMod.Proofs.Blueprint.RepeatedId

/-!
# Well-formed projects

A project is well-formed when every value that its classes need is there and usable and no
identifier occurs twice. A search for problems finds none exactly in the well-formed projects.
What it finds stays when a quest or a character is added behind the others.
-/

namespace QuestMod
namespace Blueprint

/-! ## Well-formed blueprints -/

/-- The text is not blank. -/
def IsShown (text : String) : Prop :=
  Text.isBlankText text = false

instance (text : String) : Decidable (IsShown text) :=
  inferInstanceAs (Decidable (_ = false))

/-- A trigger that names an entry also names the quest of the entry. -/
def Trigger.NamesQuestOfEntry (trigger : Trigger) : Prop :=
  trigger.entryIndex.isSome = true → ∃ id, trigger.questId = some id ∧ IsShown id

/-- The objective has a title, something to do and a usable place. -/
structure Objective.IsWellFormed (objective : Objective) : Prop where
  title : IsShown objective.title
  requiredProgress : 1 ≤ objective.requiredProgress
  location : ∀ place, objective.location = some place → place.isFinite = true
  triggers : ∀ trigger ∈ objective.startTriggers ++ objective.finishTriggers,
    trigger.NamesQuestOfEntry

/-- An item has an identifier, and there is at least one. -/
def Reward.IsWellFormed (reward : Reward) : Prop :=
  ∀ itemId quantity, reward = .item itemId quantity → IsShown itemId ∧ 1 ≤ quantity

/-- The quest has an identifier and a title, its parts are well-formed, and its saved fields have
different names. -/
structure Quest.IsWellFormed (quest : Quest) : Prop where
  id : IsShown quest.questId
  title : IsShown quest.title
  icon : quest.customIcon = true → ∃ path, quest.iconPath = some path ∧ path.bytes ≠ []
  triggers : ∀ trigger ∈ quest.startTriggers ++ quest.finishTriggers, trigger.NamesQuestOfEntry
  objectives : ∀ objective ∈ quest.objectives, objective.IsWellFormed
  rewards : ∀ reward ∈ quest.rewards, reward.IsWellFormed
  fields : ∀ field ∈ quest.dataFields, IsShown field.name
  fieldsApart : (quest.dataFields.map fun field => Text.trim field.name).Nodup

/-- The character has an identifier, a first name and a usable place. -/
structure Npc.IsWellFormed (npc : Npc) : Prop where
  id : IsShown npc.npcId
  firstName : IsShown npc.firstName
  spawn : ∀ place, npc.spawn = some place → place.isFinite = true

/-- The project has a name and well-formed parts, and its quests and its characters have
different identifiers. -/
structure Project.IsWellFormed (project : Project) : Prop where
  name : IsShown project.name
  quests : ∀ quest ∈ project.quests, quest.IsWellFormed
  questsApart : (project.quests.map (·.questId)).Nodup
  npcs : ∀ npc ∈ project.npcs, npc.IsWellFormed
  npcsApart : (project.npcs.map (·.npcId)).Nodup
  resources : ∀ path ∈ project.resources, path.bytes ≠ []

/-! ## Parts without problems -/

theorem requireText_eq_nil_iff {text : String} {value : MissingValue} :
    requireText text value = [] ↔ IsShown text :=
  problemIf_eq_nil_iff

theorem locationProblems_eq_nil_iff {location : Option Location} {value : InvalidValue} :
    locationProblems location value = [] ↔
      ∀ place, location = some place → place.isFinite = true := by
  refine ⟨fun none place same => isFinite_of_locationProblems none place same, fun finite => ?_⟩
  cases location with
  | none => rfl
  | some place => rw [locationProblems, problemIf_eq_nil_iff, finite place rfl, Bool.not_true]

theorem triggerProblems_eq_nil_iff {owner : Owner} {trigger : Trigger} :
    triggerProblems owner trigger = [] ↔ trigger.NamesQuestOfEntry := by
  have missing : trigger.quest?.isNone = false ↔ ∃ id, trigger.questId = some id ∧ IsShown id := by
    rw [Trigger.quest?]
    cases trigger.questId with
    | none => simp
    | some id =>
        cases blank : Text.isBlankText id with
        | true => simp [Text.nonBlank?_of_blank blank, IsShown, blank]
        | false => simp [Text.nonBlank?_of_shown blank, IsShown, blank]
  rw [triggerProblems, problemIf_eq_nil_iff, Bool.and_eq_false_iff, missing,
    Trigger.NamesQuestOfEntry]
  cases trigger.entryIndex <;> simp

theorem flatMap_triggerProblems_eq_nil_iff {owner : Owner} {triggers : List Trigger} :
    triggers.flatMap (triggerProblems owner) = [] ↔
      ∀ trigger ∈ triggers, trigger.NamesQuestOfEntry := by
  rw [List.flatMap_eq_nil_iff]
  exact forall₂_congr fun _ _ => triggerProblems_eq_nil_iff

/-- A count is at least one unless it is zero. -/
theorem one_le_iff_beq_zero {count : UInt32} : (count == 0) = false ↔ 1 ≤ count := by
  rw [beq_eq_false_iff_ne, UInt32.le_iff_toNat_le, Ne, ← UInt32.toNat_inj]
  show ¬ count.toNat = 0 ↔ 1 ≤ count.toNat
  omega

theorem objectiveProblems_eq_nil_iff {owner : Owner} {objective : Objective} :
    objectiveProblems owner objective = [] ↔ objective.IsWellFormed := by
  simp only [objectiveProblems, List.append_eq_nil_iff, requireText_eq_nil_iff,
    problemIf_eq_nil_iff, one_le_iff_beq_zero, locationProblems_eq_nil_iff,
    flatMap_triggerProblems_eq_nil_iff]
  constructor
  · rintro ⟨⟨⟨title, progress⟩, location⟩, triggers⟩
    exact ⟨title, progress, location, triggers⟩
  · rintro ⟨title, progress, location, triggers⟩
    exact ⟨⟨⟨title, progress⟩, location⟩, triggers⟩

theorem rewardProblems_eq_nil_iff {owner : Owner} {reward : Reward} :
    rewardProblems owner reward = [] ↔ reward.IsWellFormed := by
  cases reward with
  | money amount | experience amount => simp [rewardProblems, Reward.IsWellFormed]
  | item itemId quantity =>
      rw [rewardProblems, List.append_eq_nil_iff, requireText_eq_nil_iff, problemIf_eq_nil_iff,
        one_le_iff_beq_zero, Reward.IsWellFormed]
      constructor
      · rintro usable _ _ same
        cases same
        exact usable
      · exact fun wellFormed => wellFormed itemId quantity rfl

theorem fieldProblems_eq_nil_iff
    {owner : Owner}
    {seen : List String}
    {fields : List DataField} :
    fieldProblems owner seen fields = [] ↔
      (∀ field ∈ fields, IsShown field.name) ∧ repeats seen (shownNames fields) = [] := by
  induction fields generalizing seen with
  | nil => simp [fieldProblems, shownNames, repeats]
  | cons field rest ih =>
      rw [List.forall_mem_cons]
      cases blank : Text.isBlankText field.name with
      | true => simp [fieldProblems, Text.nonBlank?_of_blank blank, IsShown, blank]
      | false =>
          rw [fieldProblems, Text.nonBlank?_of_shown blank, shownNames_of_shown blank, repeats]
          dsimp only
          split
          · simp
          · have named : IsShown field.name := blank
            rw [ih, and_iff_right named]

theorem shownNames_eq_map
    {fields : List DataField}
    (shown : ∀ field ∈ fields, IsShown field.name) :
    shownNames fields = fields.map fun field => Text.trim field.name := by
  induction fields with
  | nil => rfl
  | cons field rest ih =>
      rw [List.forall_mem_cons] at shown
      rw [shownNames_of_shown shown.1, ih shown.2, List.map_cons]

theorem lacksIcon_eq_false_iff {quest : Quest} :
    quest.lacksIcon = false ↔
      (quest.customIcon = true → ∃ path, quest.iconPath = some path ∧ path.bytes ≠ []) := by
  have named (path : Path) : path.isEmpty = false ↔ path.bytes ≠ [] := by
    rw [Path.isEmpty, ← Bool.not_eq_true, List.isEmpty_iff]
  rw [Quest.lacksIcon, Bool.and_eq_false_iff, ← Bool.not_eq_true, imp_iff_not_or]
  cases quest.iconPath with
  | none => simp
  | some path => simp [named]

/-- Where each part has no problems at any position exactly when it is usable, all parts have none
exactly when all are usable. -/
theorem flatMap_zipIdx_eq_nil_iff
    {α : Type}
    (items : List α)
    (problemsOf : α → Nat → List Problem)
    {usable : α → Prop}
    (exact : ∀ item index, problemsOf item index = [] ↔ usable item) :
    (items.zipIdx.flatMap fun entry => problemsOf entry.1 entry.2) = [] ↔
      ∀ item ∈ items, usable item := by
  rw [List.flatMap_eq_nil_iff]
  constructor
  · intro none item member
    obtain ⟨index, inPositions⟩ := exists_mem_zipIdx member
    exact (exact item index).1 (none (item, index) inPositions)
  · rintro all ⟨item, index⟩ inPositions
    exact (exact item index).2 (all item (List.fst_mem_of_mem_zipIdx inPositions))

theorem questProblems_eq_nil_iff (quest : Quest) (index : Nat) :
    questProblems index quest = [] ↔ quest.IsWellFormed := by
  have objectives := flatMap_zipIdx_eq_nil_iff quest.objectives
    (fun objective position =>
      objectiveProblems (.objective (index + 1) quest.questId (position + 1)) objective)
    fun _ _ => objectiveProblems_eq_nil_iff
  have rewards : quest.rewards.flatMap (rewardProblems (.quest (index + 1) quest.questId)) = [] ↔
      ∀ reward ∈ quest.rewards, reward.IsWellFormed := by
    rw [List.flatMap_eq_nil_iff]
    exact forall₂_congr fun _ _ => rewardProblems_eq_nil_iff
  simp only [questProblems, List.append_eq_nil_iff, requireText_eq_nil_iff,
    problemIf_eq_nil_iff, lacksIcon_eq_false_iff, flatMap_triggerProblems_eq_nil_iff,
    objectives, rewards, fieldProblems_eq_nil_iff, repeats_eq_nil_iff]
  constructor
  · rintro ⟨⟨⟨⟨⟨⟨id, title⟩, icon⟩, triggers⟩, objectives⟩, rewards⟩, fields, apart⟩
    exact ⟨id, title, icon, triggers, objectives, rewards, fields, shownNames_eq_map fields ▸ apart⟩
  · rintro ⟨id, title, icon, triggers, objectives, rewards, fields, apart⟩
    exact ⟨⟨⟨⟨⟨⟨id, title⟩, icon⟩, triggers⟩, objectives⟩, rewards⟩, fields,
      (shownNames_eq_map fields).symm ▸ apart⟩

theorem npcProblems_eq_nil_iff (npc : Npc) (index : Nat) :
    npcProblems index npc = [] ↔ npc.IsWellFormed := by
  simp only [npcProblems, List.append_eq_nil_iff, requireText_eq_nil_iff,
    locationProblems_eq_nil_iff]
  constructor
  · rintro ⟨⟨id, firstName⟩, spawn⟩
    exact ⟨id, firstName, spawn⟩
  · rintro ⟨id, firstName, spawn⟩
    exact ⟨⟨id, firstName⟩, spawn⟩

/-- Identifiers that are all shown are not repeated exactly when they are different. -/
theorem repeatedIds_eq_nil_iff
    {kind : Identified}
    {ids : List String}
    (shown : ∀ id ∈ ids, IsShown id) :
    repeatedIds kind ids = [] ↔ ids.Nodup := by
  have all : ids.filter (fun id => !Text.isBlankText id) = ids := by
    rw [List.filter_eq_self]
    intro id member
    rw [shown id member, Bool.not_false]
  rw [repeatedIds, List.map_eq_nil_iff, all, repeats_eq_nil_iff]

/-- A project has no problems exactly when it is well-formed. -/
theorem problems_eq_nil_iff {project : Project} :
    project.problems = [] ↔ project.IsWellFormed := by
  have resources : project.resources.flatMap (fun path =>
      problemIf path.isEmpty (.missing .resourcePath)) = [] ↔
        ∀ path ∈ project.resources, path.bytes ≠ [] := by
    rw [List.flatMap_eq_nil_iff]
    refine forall₂_congr fun path _ => ?_
    rw [problemIf_eq_nil_iff, Path.isEmpty, ← Bool.not_eq_true, List.isEmpty_iff]
  have questIds (quests : ∀ quest ∈ project.quests, quest.IsWellFormed) :
      ∀ id ∈ project.quests.map (·.questId), IsShown id :=
    List.forall_mem_map.2 fun quest member => (quests quest member).id
  have npcIds (npcs : ∀ npc ∈ project.npcs, npc.IsWellFormed) :
      ∀ id ∈ project.npcs.map (·.npcId), IsShown id :=
    List.forall_mem_map.2 fun npc member => (npcs npc member).id
  simp only [Project.problems, List.append_eq_nil_iff, requireText_eq_nil_iff, resources]
  rw [flatMap_zipIdx_eq_nil_iff _ _ questProblems_eq_nil_iff,
    flatMap_zipIdx_eq_nil_iff _ _ npcProblems_eq_nil_iff]
  constructor
  · rintro ⟨⟨⟨⟨⟨name, questsApart⟩, npcsApart⟩, quests⟩, npcs⟩, named⟩
    exact ⟨name, quests, (repeatedIds_eq_nil_iff (questIds quests)).1 questsApart, npcs,
      (repeatedIds_eq_nil_iff (npcIds npcs)).1 npcsApart, named⟩
  · rintro ⟨name, quests, questsApart, npcs, npcsApart, named⟩
    exact ⟨⟨⟨⟨⟨name, (repeatedIds_eq_nil_iff (questIds quests)).2 questsApart⟩,
      (repeatedIds_eq_nil_iff (npcIds npcs)).2 npcsApart⟩, quests⟩, npcs⟩, named⟩

/-! ## Additions to a project -/

/-- The project with one more quest behind the others. -/
def Project.withQuest (project : Project) (quest : Quest) : Project :=
  { project with quests := project.quests ++ [quest] }

/-- The project with one more character behind the others. -/
def Project.withNpc (project : Project) (npc : Npc) : Project :=
  { project with npcs := project.npcs ++ [npc] }

theorem repeatedIds_sublist_append (kind : Identified) (ids more : List String) :
    (repeatedIds kind ids).Sublist (repeatedIds kind (ids ++ more)) := by
  rw [repeatedIds, repeatedIds, List.filter_append]
  exact (repeats_prefix_append [] _ _).sublist.map _

theorem flatMap_zipIdx_sublist_append
    {α : Type}
    (items more : List α)
    (problemsOf : α × Nat → List Problem) :
    (items.zipIdx.flatMap problemsOf).Sublist ((items ++ more).zipIdx.flatMap problemsOf) := by
  rw [List.zipIdx_append, List.flatMap_append]
  exact List.sublist_append_left _ _

/-- One more quest takes no problem away. -/
theorem problems_sublist_withQuest (project : Project) (quest : Quest) :
    project.problems.Sublist (project.withQuest quest).problems := by
  have ids := repeatedIds_sublist_append .quest (project.quests.map (·.questId)) [quest.questId]
  have quests := flatMap_zipIdx_sublist_append project.quests [quest] fun entry =>
    questProblems entry.2 entry.1
  rw [Project.problems, Project.problems, Project.withQuest, List.map_append]
  exact (((((List.Sublist.refl _).append ids).append (.refl _)).append quests).append
    (.refl _)).append (.refl _)

/-- One more character takes no problem away. -/
theorem problems_sublist_withNpc (project : Project) (npc : Npc) :
    project.problems.Sublist (project.withNpc npc).problems := by
  have ids := repeatedIds_sublist_append .npc (project.npcs.map (·.npcId)) [npc.npcId]
  have npcs := flatMap_zipIdx_sublist_append project.npcs [npc] fun entry =>
    npcProblems entry.2 entry.1
  rw [Project.problems, Project.problems, Project.withNpc, List.map_append]
  exact (((((List.Sublist.refl _).append (.refl _)).append ids).append (.refl _)).append
    npcs).append (.refl _)

/-- The problems of a project are none exactly when it is well-formed. They report each
identifier once less than it occurs, and none of them goes away with more quests or
characters. -/
theorem problems_find_each_fault_and_repeat (project : Project) :
    (project.problems = [] ↔ project.IsWellFormed) ∧ ReportsRepeats project ∧
      (∀ quest, project.problems.Sublist (project.withQuest quest).problems) ∧
      ∀ npc, project.problems.Sublist (project.withNpc npc).problems :=
  ⟨problems_eq_nil_iff, reportsRepeats project, problems_sublist_withQuest project,
    problems_sublist_withNpc project⟩

/-- Three quests with one identifier. The first one has two fields with one name, up to white
space, and two fields without a name. -/
def crowdedProject : Project where
  name := "Mod"
  quests := [
    { className := "First", questId := "vigil", title := "The vigil",
      dataFields := [⟨"Stage", .int, none⟩, ⟨" ", .int, none⟩, ⟨" Stage", .int, none⟩,
        ⟨" ", .int, none⟩] },
    { className := "Second", questId := "vigil", title := "The vigil again" },
    { className := "Third", questId := "vigil", title := "The last vigil" }]

/-- The identifier is reported twice and the name of the field once. -/
theorem crowdedProject_reports_repeats :
    (reported .quest crowdedProject.problems).count "vigil" = 2 ∧
      (reported .npc crowdedProject.problems).count "vigil" = 0 ∧
      ∀ quest ∈ crowdedProject.quests.head?,
        (reported .dataField (questProblems 0 quest)).count "Stage" = 1 := by
  obtain ⟨_, repeats, _⟩ := problems_find_each_fault_and_repeat crowdedProject
  refine ⟨repeats.quests "vigil" (by decide), repeats.npcs "vigil" (by decide), ?_⟩
  rintro quest ⟨⟩
  exact repeats.fieldsOfQuest 0 _ "Stage" (by decide)

end Blueprint
end QuestMod
