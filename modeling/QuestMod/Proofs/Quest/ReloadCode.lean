import QuestMod.Proofs.Quest.LifecycleSteps
import QuestMod.Quest.Resolution

/-!
# The code of a reload

The method that rebuilds a reloaded quest is made from the names, the titles and the places
of the objectives alone. Its code adds every entry again, puts the entries with a place
there and subscribes the triggers, so it calls nothing that changes a state.
-/

namespace QuestMod
namespace Quest

open Blueprint (Objective)
open Source (NameSet calledFrom calledFrom_append_of_not_occurs calledFrom_of_not_occurs
  calledFrom_toList_append calledNames codeLines vectorLiteral)
open Text (Occurs)

/-! ## What a reload reads -/

/-- The objectives have the same name, title and place. -/
structure SameOnReload (first second : Objective) : Prop where
  name : first.name = second.name
  title : first.title = second.title
  location : first.location = second.location

/-- The text of the method that rebuilds a reloaded quest. -/
def loadedText (quest : Blueprint.Quest) (used : NameSet) : String :=
  Source.renderGroups [[loaded (resolve quest used).entries]]

theorem rebuildSteps_entriesFrom_congr
    {first second : List Objective}
    (same : List.Forall₂ SameOnReload first second)
    (index : Nat)
    (used : NameSet) :
    (entriesFrom index first used).1.flatMap rebuildSteps =
      (entriesFrom index second used).1.flatMap rebuildSteps := by
  induction same generalizing index used with
  | nil => rfl
  | @cons objective other rest others alike _ ih =>
      have wanted : wantedVariable index objective = wantedVariable index other := by
        rw [wantedVariable, wantedVariable, alike.name]
      have steps (variableName : String) :
          rebuildSteps (entryOf index variableName objective) =
            rebuildSteps (entryOf index variableName other) := by
        unfold rebuildSteps newEntryLine placeLine entryOf
        dsimp only
        rw [alike.title, alike.location]
      -- Both quests ask for the same variable, so they go on with the same names in use.
      unfold entriesFrom
      rw [wanted]
      generalize Source.chooseName (wantedVariable index other) used (index + 1) = chosen
      obtain ⟨variableName, later⟩ := chosen
      show rebuildSteps (entryOf index variableName objective) ++
          (entriesFrom (index + 1) rest later).1.flatMap rebuildSteps =
        rebuildSteps (entryOf index variableName other) ++
          (entriesFrom (index + 1) others later).1.flatMap rebuildSteps
      rw [steps, ih]

theorem rebuildSteps_entries_congr
    {first second : List Objective}
    (same : List.Forall₂ SameOnReload first second)
    (used : NameSet) :
    (entries first used).1.flatMap rebuildSteps =
      (entries second used).1.flatMap rebuildSteps := by
  cases same with
  | nil => rfl
  | cons alike others => exact rebuildSteps_entriesFrom_congr (.cons alike others) 0 used

/-! ## Calls -/

/-- The names that the rebuilding of an entry calls. -/
def rebuildCalls (entry : Entry) : List String :=
  "AddEntry" :: if entry.restoredLocation.isSome then ["Vector3"] else []

/-- The expression of a place calls its constructor. -/
theorem calledFrom_vectorLiteral (front : List Char) (location : Blueprint.Location) :
    calledFrom front (vectorLiteral location).toList = ["Vector3"] := by
  have single (value : Number.Single) : ¬ Occurs '(' (Source.singleLiteral value) :=
    (Source.isWord_singleLiteral value).not_occurs_parenthesis
  have comma : ¬ Occurs '(' ", " := by unfold Occurs; decide
  have closing : ¬ Occurs '(' ")" := by unfold Occurs; decide
  unfold vectorLiteral
  rw [calledFrom_append_of_not_occurs closing, calledFrom_append_of_not_occurs (single _),
    calledFrom_append_of_not_occurs comma, calledFrom_append_of_not_occurs (single _),
    calledFrom_append_of_not_occurs comma, calledFrom_append_of_not_occurs (single _)]
  rfl

theorem calledNames_rebuildCode
    {entry : Entry}
    (form : Source.HasIdentifierForm entry.variableName) :
    (rebuildCode entry).flatMap calledNames = rebuildCalls entry := by
  have silent : ¬ Occurs '(' entry.variableName := form.isWord.not_occurs_parenthesis
  have assigned : ¬ Occurs '(' ".POIPosition = " := by unfold Occurs; decide
  have closing : ¬ Occurs '(' ");" := by unfold Occurs; decide
  have semicolon : ¬ Occurs '(' ";" := by unfold Occurs; decide
  have empty : ¬ Occurs '(' "\"\"" := by unfold Occurs; decide
  have added : calledNames (addedCode entry none) = ["AddEntry"] := by
    unfold calledNames addedCode
    dsimp only
    rw [calledFrom_append_of_not_occurs closing, calledFrom_append_of_not_occurs empty,
      calledFrom_toList_append, calledFrom_of_not_occurs silent]
    rfl
  have placed (location : Blueprint.Location) :
      calledNames (entry.variableName ++ ".POIPosition = " ++ vectorLiteral location ++ ";") =
        ["Vector3"] := by
    unfold calledNames
    rw [calledFrom_append_of_not_occurs semicolon, calledFrom_toList_append,
      calledFrom_append_of_not_occurs assigned, calledFrom_of_not_occurs silent,
      calledFrom_vectorLiteral]
    rfl
  unfold rebuildCode rebuildCalls
  rw [List.flatMap_cons, added]
  cases entry.restoredLocation with
  | none => rfl
  | some location =>
      dsimp only
      rw [List.flatMap_singleton, placed]
      rfl

theorem calledNames_loaded
    {entries : List Entry}
    (named : WellNamed entries) :
    (rebuildFront ++ entries.flatMap rebuildCode ++ rebuildBack).flatMap calledNames =
      ["OnLoaded", "OnLoaded", "if"] ++ entries.flatMap rebuildCalls ++ ["SubscribeTriggers"] := by
  have front : rebuildFront.flatMap calledNames = ["OnLoaded", "OnLoaded", "if"] := by decide
  have back : rebuildBack.flatMap calledNames = ["SubscribeTriggers"] := by decide
  have middle : (entries.flatMap rebuildCode).flatMap calledNames =
      entries.flatMap rebuildCalls := by
    rw [List.flatMap_assoc]
    exact List.flatMap_congr fun entry member => calledNames_rebuildCode (named entry member)
  rw [List.flatMap_append, List.flatMap_append, front, middle, back]

/-! ## Reloads keep states -/

/-- The methods that change the state of a quest or of an entry. -/
def stateMethods : List String :=
  ["Begin", "Complete", "Fail", "Cancel", "Expire", "SetState"]

/-- The text is code that adds the entries again, puts those with a place there and
subscribes the triggers, and that changes no state. -/
structure RestoresOnly (entries : List Entry) (text : String) : Prop where
  code : codeLines text = rebuildFront ++ entries.flatMap rebuildCode ++ rebuildBack
  calls : (codeLines text).flatMap calledNames =
    ["OnLoaded", "OnLoaded", "if"] ++ entries.flatMap rebuildCalls ++ ["SubscribeTriggers"]
  keepsStates : ∀ name ∈ (codeLines text).flatMap calledNames, name ∉ stateMethods

/-- The places that the rebuilding of a quest's entries restores: those of the objectives,
and none for the placeholder. -/
def restoredPlaces (quest : Blueprint.Quest) : List (Option Blueprint.Location) :=
  if quest.objectives = [] then [none] else quest.objectives.map (·.location)

theorem restoresOnly_loadedText (quest : Blueprint.Quest) (used : NameSet) :
    RestoresOnly (resolve quest used).entries (loadedText quest used) := by
  have named : WellNamed (resolve quest used).entries := wellNamed_entries _ _
  have code : codeLines (loadedText quest used) =
      rebuildFront ++ (resolve quest used).entries.flatMap rebuildCode ++ rebuildBack :=
    (printsMember_loaded named).reads.codeLines_renderGroups
  have calls := (congrArg (List.flatMap calledNames) code).trans (calledNames_loaded named)
  refine ⟨code, calls, ?_⟩
  rw [calls, List.forall_mem_append, List.forall_mem_append]
  refine ⟨⟨by decide, ?_⟩, by decide⟩
  intro name member
  obtain ⟨entry, _, called⟩ := List.mem_flatMap.1 member
  rcases List.mem_cons.1 called with rfl | placed
  · decide
  · split at placed
    · cases List.mem_singleton.1 placed
      decide
    · cases placed

theorem map_restoredLocation_entries (quest : Blueprint.Quest) (used : NameSet) :
    (resolve quest used).entries.map Entry.restoredLocation = restoredPlaces quest := by
  have resolved : (resolve quest used).entries = (entries quest.objectives used).1 := rfl
  unfold restoredPlaces
  rw [resolved]
  split
  · rename_i none
    rw [none]
    rfl
  · rename_i nonempty
    unfold entries
    rw [if_neg (mt List.isEmpty_iff.1 nonempty)]
    exact map_entriesFrom (fun _ _ _ => rfl) 0 quest.objectives used

/-- Whatever the settings of states are, reloading a quest runs the same code, which rebuilds
the entries and changes no state. -/
theorem reload_is_independent_of_state_settings
    (quest : Blueprint.Quest)
    (used : NameSet) :
    (∀ other : Blueprint.Quest,
        List.Forall₂ SameOnReload quest.objectives other.objectives →
          loadedText other used = loadedText quest used) ∧
      RestoresOnly (resolve quest used).entries (loadedText quest used) ∧
      (resolve quest used).entries.map Entry.restoredLocation = restoredPlaces quest := by
  refine ⟨?_, restoresOnly_loadedText quest used, map_restoredLocation_entries quest used⟩
  intro other same
  have rebuilt : (resolve other used).entries.flatMap rebuildSteps =
      (resolve quest used).entries.flatMap rebuildSteps :=
    (rebuildSteps_entries_congr same used).symm
  unfold loadedText loaded
  rw [rebuilt]

/-- A quest whose one objective begins at creation. -/
def openWatch : Blueprint.Quest where
  className := "Watch"
  questId := "watch"
  title := "Night watch"
  objectives := [{
    title := "Call Begin() at the gate"
    location := some ⟨.zero, .zero, .zero⟩
    autoStart := true }]

/-- The same quest with other settings of states. -/
def calledWatch : Blueprint.Quest where
  className := "Watch"
  questId := "watch"
  title := "Night watch"
  autoBegin := true
  rewards := [.money 50]
  finishTriggers := [{ action := "Player.OnDeath", disposition := .fail }]
  objectives := [{
    title := "Call Begin() at the gate"
    location := some ⟨.zero, .zero, .zero⟩
    createPoi := false
    requiredProgress := 3
    startTriggers := [{ action := "TimeManager.OnDayPass" }] }]

/-- Entries that begin at creation and entries that wait are reloaded by the same code. -/
theorem watch_reloads_alike :
    List.Forall₂ SameOnReload openWatch.objectives calledWatch.objectives ∧
      (resolve openWatch .empty).entries ≠ (resolve calledWatch .empty).entries ∧
      loadedText calledWatch .empty = loadedText openWatch .empty := by
  have same : List.Forall₂ SameOnReload openWatch.objectives calledWatch.objectives :=
    .cons ⟨rfl, rfl, rfl⟩ .nil
  exact ⟨same, by decide,
    (reload_is_independent_of_state_settings openWatch .empty).1 calledWatch same⟩

end Quest
end QuestMod
