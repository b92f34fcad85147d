import QuestMod.Proofs.Quest.EntryTable
import QuestMod.Proofs.Quest.Name
import QuestMod.Proofs.Source.Printing
import QuestMod.Quest.Lifecycle

/-!
# What lifecycle methods print

The methods that create, rebuild and complete a quest. Each line that they emit is read once:
titles, item ids and icon names stand in literals, everything else that varies is an
identifier or a number, and no line states an identifier. What the methods print follows.
-/

namespace QuestMod
namespace Quest

open Source (Begins HasIdentifierForm IsLine PrintMembers Prints PrintsMember Statement
  declaredName? declaredName?_ofList declaredName?_of_toList_eq vectorLiteral)
open Text (IsOneLine)

/-! ## Methods -/

/-- A method without arguments. -/
theorem isLine_methodHeader
    {method : String}
    (form : HasIdentifierForm method) :
    IsLine ("private void " ++ method ++ "()") ("private void " ++ method ++ "()") [] [] := by
  have front : Begins "private void " _ _ _ := .fixed (by rfl) (by decide)
  exact ((front.append (.name form)).append (.fixed (by rfl) (by decide))).isLine

/-- The header declares the method. -/
theorem declaredName?_methodHeader
    {method : String}
    (form : HasIdentifierForm method) :
    declaredName? ("private void " ++ method ++ "()") = some method :=
  declaredName?_of_toList_eq form "private void".toList ['(', ')'] (by simp) (by decide)
    (by decide) (by decide)

/-- A call of a method is its own code. -/
theorem isLine_callLine
    {method : String}
    (form : HasIdentifierForm method) :
    IsLine (callLine method) (method ++ "();") [] [] :=
  (Begins.name form (.fixed (by rfl) (by decide)) (by decide)).isLine

theorem isLine_subscribeCall : IsLine (callLine subscribeMethod) "SubscribeTriggers();" [] [] := by
  have spelled : subscribeMethod ++ "();" = "SubscribeTriggers();" := by decide
  rw [← spelled]
  exact isLine_callLine (Source.hasIdentifierForm_ofList (by decide))

theorem isLine_bindCall : IsLine (callLine bindMethod) "BindExistingEntries();" [] [] := by
  have spelled : bindMethod ++ "();" = "BindExistingEntries();" := by decide
  rw [← spelled]
  exact isLine_callLine (Source.hasIdentifierForm_ofList (by decide))

/-! ## Lines of entries -/

/-- The code that adds an entry, shown at a place if there is one. -/
def addedCode (entry : Entry) (place : Option Blueprint.Location) : String :=
  match place with
  | some location =>
      entry.variableName ++ " = AddEntry(" ++ "\"\"" ++ ", " ++ vectorLiteral location ++ ");"
  | none => entry.variableName ++ " = AddEntry(" ++ "\"\"" ++ ");"

section

variable {entry : Entry} (form : HasIdentifierForm entry.variableName)

include form

/-- Creation and reloading add entries by the same line. The title of the entry is no code. -/
theorem isLine_newEntryLine (place : Option Blueprint.Location) :
    IsLine (newEntryLine entry place) (addedCode entry place) [entry.title] [] := by
  have assigned : Begins (entry.variableName ++ " = AddEntry(") _ _ _ :=
    .name form (.fixed (by rfl) (by decide)) (by decide)
  have titled := assigned.append (.literal entry.title)
  cases place with
  | none => exact (titled.append (.fixed (by rfl) (by decide))).isLine
  | some location =>
      exact (((titled.append (.fixed (by rfl) (by decide))).append (.vector location)).append
        (.fixed (by rfl) (by decide))).isLine

/-- The line that begins an entry is its own code. -/
theorem isLine_beginLine : IsLine (beginLine entry) (entry.variableName ++ ".Begin();") [] [] :=
  (Begins.name form (.fixed (by rfl) (by decide)) (by decide)).isLine

/-- The line that puts an entry on the map is its own code. -/
theorem isLine_placeLine (location : Blueprint.Location) :
    IsLine (placeLine entry location) (placeLine entry location) [] [] := by
  have placed : Begins (entry.variableName ++ ".POIPosition = ") _ _ _ :=
    .name form (.fixed (by rfl) (by decide)) (by decide)
  exact ((placed.append (.vector location)).append (.fixed (by rfl) (by decide))).isLine

/-- The line that finds a restored entry is its own code. -/
theorem isLine_bindLine : IsLine (bindLine entry) (bindLine entry) [] [] := by
  have counted : Begins (entry.variableName ++ " = QuestEntries.Count > ") _ _ _ :=
    .name form (.fixed (by rfl) (by decide)) (by decide)
  exact ((((counted.append (.number entry.index)).append (.fixed (by rfl) (by decide))).append
    (.number entry.index)).append (.fixed (by rfl) (by decide))).isLine

/-- What a comment tells about an entry is written on one line. -/
theorem isOneLine_note
    {note : String}
    (noted : entry.startState.note? = some note) :
    IsOneLine (entry.variableName ++ ": " ++ note) := by
  have noteLine : IsOneLine note := by
    unfold StartState.note? at noted
    split at noted
    · cases noted
    · cases noted
      exact Source.isOneLine_ofList (by decide)
    · cases noted
      exact Source.isOneLine_ofList (by decide)
  exact Source.isOneLine_append
    (Source.isOneLine_append form.isOneLine (Source.isOneLine_ofList (by decide))) noteLine

end

/-! ## Creation -/

/-- The code that creates an entry. -/
def creationCode (entry : Entry) : List String :=
  addedCode entry entry.poi ::
    if entry.startState = .active then [entry.variableName ++ ".Begin();"] else []

/-- The statements that create an entry. -/
def creationOutline (entry : Entry) : List Statement :=
  ⟨0, newEntryLine entry entry.poi⟩ ::
    match entry.startState.note? with
    | none => [⟨0, entry.variableName ++ ".Begin();"⟩]
    | some _ => []

/-- Creation of an entry shows its title. -/
theorem prints_creationSteps
    {entry : Entry}
    (form : HasIdentifierForm entry.variableName) :
    Prints (creationSteps entry) (creationCode entry) (creationOutline entry) [entry.title] [] := by
  have added := isLine_newEntryLine form entry.poi
  have begun := isLine_beginLine form
  unfold creationSteps creationCode creationOutline
  cases state : entry.startState with
  | active => exact .line added (.ofLine begun)
  | deferred => exact .line added (.comment (isOneLine_note form (by rw [state]; rfl)) .nil)
  | dormant => exact .line added (.comment (isOneLine_note form (by rw [state]; rfl)) .nil)

/-- The code in front of all entries. -/
def createdFront : List String := [
  "protected override void OnCreated()", "\x7b", "base.OnCreated();",
  "if (QuestEntries.Count > 0)", "\x7b", "BindExistingEntries();", "SubscribeTriggers();",
  "return;", "\x7d"]

/-- The code behind all entries. -/
def createdBack : List String :=
  ["SubscribeTriggers();", "\x7d"]

/-- The statements that set up a new quest. -/
def createdOutline (entries : List Entry) : List Statement :=
  [⟨0, "base.OnCreated();"⟩, ⟨0, "if (QuestEntries.Count > 0)"⟩, ⟨1, callLine bindMethod⟩,
      ⟨1, callLine subscribeMethod⟩, ⟨1, "return;"⟩] ++
    entries.flatMap creationOutline ++ [⟨0, callLine subscribeMethod⟩]

section

variable {entries : List Entry} (named : WellNamed entries)

include named

/-- The method that sets up a new quest shows the titles of its entries. -/
theorem printsMember_created :
    PrintsMember (created entries) (createdFront ++ entries.flatMap creationCode ++ createdBack)
      ⟨[], "protected override void OnCreated()", createdOutline entries⟩
      (entries.map Entry.title) [] := by
  have header : IsLine "protected override void OnCreated()" _ [] [] :=
    .fixed (by decide)
  have base : IsLine "base.OnCreated();" _ [] [] := .fixed (by decide)
  have guard : IsLine "if (QuestEntries.Count > 0)" _ [] [] :=
    .fixed (by decide)
  have leaves : IsLine "return;" _ [] [] := .fixed (by decide)
  have restored : Prints
      (Source.block "if (QuestEntries.Count > 0)" [
        .comment "Entries were restored from a save before this ran; keep them.",
        .line (callLine bindMethod), .line (callLine subscribeMethod), .line "return;"])
      _ _ [] [] :=
    .block guard (.comment (Source.isOneLine_ofList (by decide))
      (.line isLine_bindCall (.line isLine_subscribeCall (.ofLine leaves))))
  have each : Prints (entries.flatMap creationSteps) (entries.flatMap creationCode)
      (entries.flatMap creationOutline) _ [] :=
    .flatMap fun entry member => prints_creationSteps (named entry member)
  have front := (Prints.ofLine base).append restored
  have body := ((front.append (.blank .nil)).append each).append
    (.blank (.ofLine isLine_subscribeCall))
  have titled : Prints _ _ (createdOutline entries) (entries.map Entry.title) [] :=
    body.showing (by simp [eq_comm])
  have spelled : entries.flatMap creationCode ++ createdBack =
      (entries.flatMap creationCode ++ ["SubscribeTriggers();"]) ++ ["\x7d"] := by
    rw [List.append_assoc]
    rfl
  rw [List.append_assoc, spelled]
  exact .withBody header (declaredName?_ofList (by decide)) titled

end

/-! ## Rebuilding -/

/-- The code that rebuilds an entry. -/
def rebuildCode (entry : Entry) : List String :=
  addedCode entry none ::
    match entry.restoredLocation with
    | some location => [entry.variableName ++ ".POIPosition = " ++ vectorLiteral location ++ ";"]
    | none => []

/-- The statements that rebuild an entry. -/
def rebuildOutline (entry : Entry) : List Statement :=
  ⟨0, newEntryLine entry none⟩ ::
    match entry.restoredLocation with
    | some location => [⟨0, placeLine entry location⟩]
    | none => []

/-- Rebuilding of an entry shows its title. -/
theorem prints_rebuildSteps
    {entry : Entry}
    (form : HasIdentifierForm entry.variableName) :
    Prints (rebuildSteps entry) (rebuildCode entry) (rebuildOutline entry) [entry.title] [] := by
  have added := isLine_newEntryLine form none
  unfold rebuildSteps rebuildCode rebuildOutline
  cases entry.restoredLocation with
  | none => exact .ofLine added
  | some location => exact .line added (.ofLine (isLine_placeLine form location))

/-- The code in front of all entries. -/
def rebuildFront : List String := [
  "protected override void OnLoaded()", "\x7b", "base.OnLoaded();",
  "if (QuestEntries.Count == 0)", "\x7b"]

/-- The code behind all entries. -/
def rebuildBack : List String :=
  ["SubscribeTriggers();", "\x7d", "\x7d"]

/-- The statements that rebuild a reloaded quest. -/
def loadedOutline (entries : List Entry) : List Statement :=
  [⟨0, "base.OnLoaded();"⟩, ⟨0, "if (QuestEntries.Count == 0)"⟩] ++
    (entries.flatMap rebuildOutline ++ [Statement.mk 0 (callLine subscribeMethod)]).map
      (Statement.inside 1)

/-- The statements that find restored entries. -/
def bindOutline (entries : List Entry) : List Statement :=
  entries.map fun entry => ⟨0, bindLine entry⟩

section

variable {entries : List Entry} (named : WellNamed entries)

include named

/-- The method that rebuilds a reloaded quest shows the titles of its entries. -/
theorem printsMember_loaded :
    PrintsMember (loaded entries) (rebuildFront ++ entries.flatMap rebuildCode ++ rebuildBack)
      ⟨[], "protected override void OnLoaded()", loadedOutline entries⟩
      (entries.map Entry.title) [] := by
  have header : IsLine "protected override void OnLoaded()" _ [] [] :=
    .fixed (by decide)
  have base : IsLine "base.OnLoaded();" _ [] [] := .fixed (by decide)
  have guard : IsLine "if (QuestEntries.Count == 0)" _ [] [] :=
    .fixed (by decide)
  have each : Prints (entries.flatMap rebuildSteps) (entries.flatMap rebuildCode)
      (entries.flatMap rebuildOutline) _ [] :=
    .flatMap fun entry member => prints_rebuildSteps (named entry member)
  have comment : IsOneLine
      "The save cleared our entries; recreate them so saved state can be applied." :=
    Source.isOneLine_ofList (by decide)
  have recreated := (Prints.comment comment each).append (.ofLine isLine_subscribeCall)
  have titled : Prints _ _ (loadedOutline entries) (entries.map Entry.title) [] :=
    (Prints.line base (.block guard recreated)).showing (by simp [eq_comm])
  have spelled : entries.flatMap rebuildCode ++ rebuildBack =
      ((entries.flatMap rebuildCode ++ ["SubscribeTriggers();"]) ++ ["\x7d"]) ++ ["\x7d"] := by
    rw [List.append_assoc, List.append_assoc]
    rfl
  rw [List.append_assoc, spelled]
  exact .withBody header (declaredName?_ofList (by decide)) titled

/-- The method that finds restored entries shows nothing. -/
theorem printsMember_bindEntries :
    ∃ code, PrintsMember (bindEntries entries) code
      ⟨[], "private void " ++ bindMethod ++ "()", bindOutline entries⟩ [] [] := by
  have form : HasIdentifierForm bindMethod := Source.hasIdentifierForm_ofList (by decide)
  have header := isLine_methodHeader form
  have lines : Prints (entries.map fun entry => .line (bindLine entry)) _ (bindOutline entries)
      [] [] :=
    .mapLine fun entry member => isLine_bindLine (named entry member)
  exact ⟨_, .withBody header (declaredName?_methodHeader form) lines⟩

end

/-! ## Rewards -/

/-- The item that a reward gives. -/
def rewardItem? : Blueprint.Reward → Option String
  | .item itemId _ => some itemId
  | _ => none

/-- The line that grants a reward shows the item that the reward gives. -/
theorem exists_isLine_rewardLine (reward : Blueprint.Reward) :
    ∃ code, IsLine (rewardLine reward) code (rewardItem? reward).toList [] := by
  cases reward with
  | money amount =>
      have front : Begins "Money.ChangeCashBalance(" _ _ _ :=
        .fixed (by rfl) (by decide)
      exact ⟨_, ((front.append (.number _)).append (.fixed (by rfl) (by decide))).isLine⟩
  | experience amount =>
      have front : Begins "LevelManager.AddXP(" _ _ _ :=
        .fixed (by rfl) (by decide)
      exact ⟨_, ((front.append (.number _)).append (.fixed (by rfl) (by decide))).isLine⟩
  | item itemId quantity =>
      have front : Begins "PlayerInventory.AddItem(" _ _ _ :=
        .fixed (by rfl) (by decide)
      exact ⟨_, ((((front.append (.literal itemId)).append (.fixed (by rfl) (by decide))).append
        (.number _)).append (.fixed (by rfl) (by decide))).isLine⟩

/-- The steps of rewards show the items that are given. -/
theorem exists_prints_rewardSteps (rewards : List Blueprint.Reward) :
    ∃ code statements,
      Prints (rewardSteps rewards) code statements (rewards.filterMap rewardItem?) [] := by
  unfold rewardSteps
  split
  · rename_i none
    rw [List.isEmpty_iff.1 none]
    exact ⟨_, _, .comment (Source.isOneLine_ofList (by decide)) .nil⟩
  · rw [List.map_eq_flatMap]
    have each : ∀ reward ∈ rewards, ∃ code,
        Prints [.line (rewardLine reward)] code [⟨0, rewardLine reward⟩]
          (rewardItem? reward).toList [] := by
      intro reward _
      obtain ⟨_, line⟩ := exists_isLine_rewardLine reward
      exact ⟨_, .ofLine line⟩
    obtain ⟨_, lines⟩ := Prints.exists_flatMap each
    exact ⟨_, _, lines.showing (by simp)⟩

/-- The methods of completion show the items that are given, and the title of the quest. -/
theorem printMembers_rewardGroups (quest : Blueprint.Quest) :
    PrintMembers (rewardGroups quest).flatten
      (quest.rewards.filterMap rewardItem? ++ [quest.title]) [] := by
  have form : HasIdentifierForm rewardMethod := Source.hasIdentifierForm_ofList (by decide)
  have completes : PrintsMember completed _ _ [] [] :=
    .withBody (.fixed (by decide)) (declaredName?_ofList (by decide))
      (.line (.fixed (by decide)) (.ofLine (isLine_callLine form)))
  obtain ⟨_, _, rewards⟩ := exists_prints_rewardSteps quest.rewards
  have grants : PrintsMember (giveRewards quest) _ _ _ [] :=
    .withBody (isLine_methodHeader form) (declaredName?_methodHeader form)
      (rewards.append (.ofLine (.quoting (by rfl) (by rfl) (by decide))))
  exact .cons completes (.single grants)

/-! ## The icon -/

theorem hasIdentifierForm_iconMethod : HasIdentifierForm iconMethod :=
  Source.hasIdentifierForm_ofList (by decide)

/-- The method that loads the icon shows the name of its resource. -/
theorem exists_printsMember_loadIcon (resource : String) :
    ∃ code declaration, PrintsMember (loadIcon resource) code declaration [resource] [] := by
  have header : IsLine ("private static Sprite? " ++ iconMethod ++ "()") _ [] [] :=
    (((Begins.fixed (by rfl) (by decide)).append
      (.name hasIdentifierForm_iconMethod)).append (.fixed (by rfl) (by decide))).isLine
  have missing : Prints (Source.block "if (stream == null)" [
      .line ("MelonLogger.Warning(\"Icon resource not found: " ++ Text.literal resource ++ "\");"),
      .line "return null;"]) _ _ [resource] [] :=
    .block (.fixed (by decide))
      (.line (.quoting (by rfl) (by rfl) (by decide)) (.ofLine (.fixed (by decide))))
  have reading : Prints (Source.block "while (read < data.Length)"
      ([.line "var count = stream.Read(data, read, data.Length - read);"] ++
        Source.block "if (count <= 0)" [.line "break;"] ++ [.line "read += count;"])) _ _ [] [] :=
    .block (.fixed (by decide)) <| .append
      (.append (.ofLine (.fixed (by decide)))
        (.block (.fixed (by decide)) (.ofLine (.fixed (by decide)))))
      (.ofLine (.fixed (by decide)))
  have caught : Prints (Source.block "catch (Exception ex)" [
      .line ("MelonLogger.Warning(\"Failed to load icon " ++ Text.literal resource ++
        ": \" + ex.Message);"),
      .line "return null;"]) _ _ [resource] [] :=
    .block (.fixed (by decide))
      (.line (.quoting (by rfl) (by rfl) (by decide)) (.ofLine (.fixed (by decide))))
  exact ⟨_, _, .withBody header (by decide) <| .showing (.append
    (.block (.fixed (by decide)) <| .append (.append (.append (.append
      (.ofLine (.quoting (by rfl) (by rfl) (by decide))) missing)
      (.line (.fixed (by decide)) (.ofLine (.fixed (by decide))))) reading)
      (.ofLine (.fixed (by decide)))) caught) (by simp)⟩

/-- A quest with an icon shows the name of its resource. -/
theorem printMembers_iconGroups (icon : Option String) :
    PrintMembers (iconGroups icon).flatten icon.toList [] := by
  cases icon with
  | none => exact .nil
  | some resource =>
      have property : IsLine ("protected override Sprite? QuestIcon => " ++ callLine iconMethod)
          _ [] [] :=
        ((Begins.fixed (by rfl) (by decide)).append
          ((Source.Spells.name hasIdentifierForm_iconMethod).append
            (.fixed (by rfl) (by decide)))).isLine
      obtain ⟨_, _, method⟩ := exists_printsMember_loadIcon resource
      exact .cons (.onLine property (by decide)) (.single method)

end Quest
end QuestMod
