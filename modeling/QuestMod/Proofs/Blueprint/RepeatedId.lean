import Mathlib.Data.List.Nodup
import QuestMod.Proofs.Blueprint.Problem
import QuestMod.Proofs.Text.Escape

/-!
# Repeated identifiers

The problems of a project name the identifiers that occur again. Quests and characters share
their lists of identifiers with the whole project, and each quest has a list of names of saved
fields, which are compared trimmed. An identifier that is not blank is named once less than it
occurs, and a blank one never.
-/

namespace QuestMod
namespace Blueprint

/-! ## Elements that occur again -/

/-- An element is named once less than it occurs, or as often as it occurs if it was seen
before. -/
theorem count_repeats (seen names : List String) (name : String) :
    (repeats seen names).count name = names.count name - if name ∈ seen then 0 else 1 := by
  induction names generalizing seen with
  | nil => simp [repeats]
  | cons first rest ih =>
      by_cases known : first ∈ seen
      · have again : repeats seen (first :: rest) = first :: repeats seen rest := by
          simp [repeats, known]
        rw [again, List.count_cons, List.count_cons, ih]
        by_cases same : first = name
        · subst same
          simp [known]
        · simp [same]
      · have once : repeats seen (first :: rest) = repeats (first :: seen) rest := by
          simp [repeats, known]
        rw [once, List.count_cons, ih]
        by_cases same : first = name
        · subst same
          simp [known]
        · simp [same, Ne.symm same]

/-- Nothing is named exactly when nothing occurs twice. -/
theorem repeats_eq_nil_iff {names : List String} : repeats [] names = [] ↔ names.Nodup := by
  rw [List.nodup_iff_count_le_one, List.eq_nil_iff_forall_not_mem]
  refine forall_congr' fun name => ?_
  rw [← List.count_eq_zero, count_repeats]
  simp only [List.not_mem_nil, if_false]
  omega

/-- More elements behind the list take no name away. -/
theorem repeats_prefix_append (seen names more : List String) :
    repeats seen names <+: repeats seen (names ++ more) := by
  induction names generalizing seen with
  | nil => exact List.nil_prefix
  | cons first rest ih =>
      rw [List.cons_append, repeats, repeats]
      split
      · exact List.cons_prefix_cons.2 ⟨rfl, ih seen⟩
      · exact ih (first :: seen)

/-! ## Reported identifiers -/

/-- The identifier that the problem reports as repeated among those of the kind. Names of saved
fields are taken trimmed. -/
def Problem.repeated? (kind : Identified) : Problem → Option String
  | .duplicateId .dataField id => if kind = .dataField then some (Text.trim id) else none
  | .duplicateId other id => if kind = other then some id else none
  | .missing _ => none
  | .invalid _ => none

/-- The identifiers of the kind that the problems report as repeated. -/
def reported (kind : Identified) (problems : List Problem) : List String :=
  problems.filterMap (Problem.repeated? kind)

section

variable (kind : Identified)

/-- Two lists of problems report what each of them reports. -/
@[simp] theorem reported_append (first second : List Problem) :
    reported kind (first ++ second) = reported kind first ++ reported kind second :=
  List.filterMap_append

@[simp] theorem reported_missing (condition : Bool) (value : MissingValue) :
    reported kind (problemIf condition (.missing value)) = [] := by
  cases condition <;> rfl

@[simp] theorem reported_invalid (condition : Bool) (value : InvalidValue) :
    reported kind (problemIf condition (.invalid value)) = [] := by
  cases condition <;> rfl

@[simp] theorem reported_requireText (text : String) (value : MissingValue) :
    reported kind (requireText text value) = [] :=
  reported_missing kind _ value

@[simp] theorem reported_locationProblems (location : Option Location) (value : InvalidValue) :
    reported kind (locationProblems location value) = [] := by
  cases location with
  | none => rfl
  | some place => exact reported_invalid kind _ value

/-- Problems of many items report what those of each item report. -/
theorem reported_flatMap
    {α : Type}
    (items : List α)
    (problemsOf : α → List Problem) :
    reported kind (items.flatMap problemsOf) =
      items.flatMap fun item => reported kind (problemsOf item) := by
  rw [reported, List.filterMap_flatMap]
  rfl

/-- Parts that report no repeated identifier report none together. -/
theorem reported_flatMap_eq_nil
    {α : Type}
    {items : List α}
    {problemsOf : α → List Problem}
    (silent : ∀ item ∈ items, reported kind (problemsOf item) = []) :
    reported kind (items.flatMap problemsOf) = [] := by
  rw [reported_flatMap, List.flatMap_eq_nil_iff]
  exact silent

@[simp] theorem reported_triggerProblems (owner : Owner) (triggers : List Trigger) :
    reported kind (triggers.flatMap (triggerProblems owner)) = [] :=
  reported_flatMap_eq_nil kind fun _ _ => reported_invalid kind _ _

@[simp] theorem reported_objectiveProblems (owner : Owner) (objective : Objective) :
    reported kind (objectiveProblems owner objective) = [] := by
  simp [objectiveProblems]

@[simp] theorem reported_rewardProblems (owner : Owner) (reward : Reward) :
    reported kind (rewardProblems owner reward) = [] := by
  cases reward with
  | money amount | experience amount => rfl
  | item itemId quantity => simp [rewardProblems]

@[simp] theorem reported_npcProblems (index : Nat) (npc : Npc) :
    reported kind (npcProblems index npc) = [] := by
  simp [npcProblems]

end

/-! ## Quests, characters and saved fields -/

/-- Repeated identifiers of a kind are reported among those of this kind only. -/
theorem reported_repeatedIds
    (kind : Identified)
    {other : Identified}
    (shared : other ≠ .dataField)
    (ids : List String) :
    reported kind (repeatedIds other ids) =
      if kind = other then repeats [] (ids.filter fun id => !Text.isBlankText id) else [] := by
  have told (id : String) : Problem.repeated? kind (.duplicateId other id) =
      if kind = other then some id else none := by
    cases other with
    | quest | npc => rfl
    | dataField => exact absurd rfl shared
  rw [reported, repeatedIds, List.filterMap_map]
  by_cases same : kind = other
  · have every : Problem.repeated? kind ∘ Problem.duplicateId other = some := by
      funext id
      rw [Function.comp_apply, told, if_pos same]
    rw [every, List.filterMap_some, if_pos same]
  · have none : Problem.repeated? kind ∘ Problem.duplicateId other = fun _ => none := by
      funext id
      rw [Function.comp_apply, told, if_neg same]
    rw [none, List.filterMap_none, if_neg same]

/-- An identifier that is not blank is named once less than it occurs. -/
theorem count_repeats_filter
    {id : String}
    (shown : Text.isBlankText id = false)
    (ids : List String) :
    (repeats [] (ids.filter fun id => !Text.isBlankText id)).count id = ids.count id - 1 := by
  rw [count_repeats, List.count_filter (by simp [shown])]
  rfl

/-- The names of the fields, trimmed, without the blank ones. -/
def shownNames (fields : List DataField) : List String :=
  fields.filterMap fun field => Text.nonBlank? field.name

theorem shownNames_of_blank
    {field : DataField}
    (blank : Text.isBlankText field.name = true)
    (rest : List DataField) :
    shownNames (field :: rest) = shownNames rest :=
  List.filterMap_cons_none (Text.nonBlank?_of_blank blank)

/-- A field that has a name is known by it without the blanks around it. -/
theorem shownNames_of_shown
    {field : DataField}
    (shown : Text.isBlankText field.name = false)
    (rest : List DataField) :
    shownNames (field :: rest) = Text.trim field.name :: shownNames rest :=
  List.filterMap_cons_some (Text.nonBlank?_of_shown shown)

/-- Fields report the trimmed names that occur again. -/
theorem reported_fieldProblems
    (owner : Owner)
    (seen : List String)
    (fields : List DataField) :
    reported .dataField (fieldProblems owner seen fields) = repeats seen (shownNames fields) := by
  induction fields generalizing seen with
  | nil => rfl
  | cons field rest ih =>
      cases blank : Text.isBlankText field.name with
      | true =>
          rw [fieldProblems, Text.nonBlank?_of_blank blank, shownNames_of_blank blank]
          exact ih seen
      | false =>
          rw [fieldProblems, Text.nonBlank?_of_shown blank, shownNames_of_shown blank, repeats]
          dsimp only
          split
          · exact congrArg (Text.trim field.name :: ·) (ih seen)
          · exact ih _

/-- Fields report no identifier of a quest or a character. -/
theorem reported_fieldProblems_of_ne
    {kind : Identified}
    (shared : kind ≠ .dataField)
    (owner : Owner)
    (seen : List String)
    (fields : List DataField) :
    reported kind (fieldProblems owner seen fields) = [] := by
  induction fields generalizing seen with
  | nil => rfl
  | cons field rest ih =>
      have other (id : String) : Problem.repeated? kind (.duplicateId .dataField id) = none :=
        if_neg shared
      rw [fieldProblems]
      split
      · exact ih seen
      · split
        · rw [reported, List.filterMap_cons_none (other _)]
          exact ih seen
        · exact ih _

/-- Leaving out blank names does not change how often another name occurs. -/
theorem count_shownNames
    {name : String}
    (shown : Text.isBlankText name = false)
    (fields : List DataField) :
    (shownNames fields).count name =
      (fields.map fun field => Text.trim field.name).count name := by
  induction fields with
  | nil => rfl
  | cons field rest ih =>
      rw [List.map_cons, List.count_cons, ← ih]
      cases blank : Text.isBlankText field.name with
      | true =>
          have other : ¬ (Text.trim field.name == name) = true := by
            rw [Text.trim_of_isBlankText blank, beq_iff_eq]
            rintro rfl
            cases shown
          rw [shownNames_of_blank blank, if_neg other]
          rfl
      | false =>
          rw [shownNames_of_shown blank, List.count_cons]

/-- A quest reports the repeated names of its fields, and no repeated identifier else. -/
theorem reported_questProblems (index : Nat) (quest : Quest) :
    reported .dataField (questProblems index quest) = repeats [] (shownNames quest.dataFields) := by
  simp [questProblems, reported_fieldProblems, reported_flatMap_eq_nil]

theorem reported_questProblems_of_ne
    {kind : Identified}
    (shared : kind ≠ .dataField)
    (index : Nat)
    (quest : Quest) :
    reported kind (questProblems index quest) = [] := by
  simp [questProblems, reported_fieldProblems_of_ne shared, reported_flatMap_eq_nil]

/-! ## Whole projects -/

/-- An identifier that occurs several times is reported each time but the first. -/
structure ReportsRepeats (project : Project) : Prop where
  quests : ∀ id, Text.isBlankText id = false →
    (reported .quest project.problems).count id = (project.quests.map (·.questId)).count id - 1
  npcs : ∀ id, Text.isBlankText id = false →
    (reported .npc project.problems).count id = (project.npcs.map (·.npcId)).count id - 1
  /-- The project reports what its quests report of their fields, one quest after the other. -/
  fields : reported .dataField project.problems =
    project.quests.zipIdx.flatMap fun entry =>
      reported .dataField (questProblems entry.2 entry.1)
  fieldsOfQuest : ∀ index (quest : Quest) name, Text.isBlankText name = false →
    (reported .dataField (questProblems index quest)).count name =
      (quest.dataFields.map fun field => Text.trim field.name).count name - 1

/-- Repeated identifiers of quests and characters are reported for the whole project. -/
theorem reported_problems_of_ne
    {kind : Identified}
    (shared : kind ≠ .dataField)
    (project : Project) :
    reported kind project.problems =
      reported kind (repeatedIds .quest (project.quests.map (·.questId))) ++
        reported kind (repeatedIds .npc (project.npcs.map (·.npcId))) := by
  simp [Project.problems, reported_flatMap_eq_nil, reported_questProblems_of_ne shared]

theorem reportsRepeats (project : Project) : ReportsRepeats project where
  quests id shown := by
    rw [reported_problems_of_ne (by decide), reported_repeatedIds _ (by decide),
      reported_repeatedIds _ (by decide), if_pos rfl, if_neg (by decide), List.append_nil,
      count_repeats_filter shown]
  npcs id shown := by
    rw [reported_problems_of_ne (by decide), reported_repeatedIds _ (by decide),
      reported_repeatedIds _ (by decide), if_neg (by decide), if_pos rfl, List.nil_append,
      count_repeats_filter shown]
  fields := by
    have silent (other : Identified) (shared : other ≠ .dataField) (ids : List String) :
        reported .dataField (repeatedIds other ids) = [] := by
      rw [reported_repeatedIds _ shared, if_neg (Ne.symm shared)]
    simp [Project.problems, reported_flatMap_eq_nil, silent, reported_flatMap]
  fieldsOfQuest index quest name shown := by
    rw [reported_questProblems, count_repeats, count_shownNames shown]
    rfl

end Blueprint
end QuestMod
