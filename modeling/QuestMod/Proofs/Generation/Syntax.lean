import QuestMod.Proofs.Build.NeatFiles
import QuestMod.Proofs.Generation.Changes
import QuestMod.Proofs.Generation.ClassName
import QuestMod.Proofs.Npc.PrintedClass
import QuestMod.Proofs.Path.FileName
import QuestMod.Proofs.Quest.PrintedClass
import QuestMod.Proofs.Storage.Program

/-!
# Every generated source file is a sequence of token trees

The check of sources accepts every class file and every project-level source file, so a
run never reports a bad source, and it makes no difference whether sources are checked.
-/

namespace QuestMod
namespace Generation

open Blueprint (Project)
open Source (HasIdentifierForm IsDottedName checkTokens)
open Storage (Handler Program)

/-! ## Files -/

/-- The check accepts every class of a quest. -/
theorem checkTokens_questFile
    (quest : Blueprint.Quest)
    {className root : String}
    (form : HasIdentifierForm className)
    (dotted : IsDottedName root)
    (icon : Option String) :
    checkTokens (Quest.classFile quest className root icon).source = .ok () :=
  (Quest.neat_fileSteps quest form icon dotted).checkTokens_render

/-- The check accepts every class of a character. -/
theorem checkTokens_npcFile
    (npc : Blueprint.Npc)
    {className root : String}
    (form : HasIdentifierForm className)
    (dotted : IsDottedName root) :
    checkTokens (Npc.classFile npc className root).source = .ok () :=
  (Npc.neat_fileSteps npc form dotted).checkTokens_render

/-- The check accepts the constants of a project. -/
theorem checkTokens_constants
    {input : Build.Input}
    (dotted : IsDottedName input.root) :
    checkTokens (Build.constants input).contents = .ok () :=
  (Build.neat_constantsSteps dotted).checkTokens_render

/-- The check accepts the entry point of a project whose quests are well-formed. -/
theorem checkTokens_entryPoint
    {input : Build.Input}
    (dotted : IsDottedName input.root)
    (wellFormed : ∀ quest ∈ input.quests, quest.IsWellFormed) :
    checkTokens (Build.entryPoint input).contents = .ok () :=
  (Build.neat_entryPointSteps dotted wellFormed).checkTokens_render

/-! ## Planned classes -/

/-- The name of the class is an identifier, and its file is a sequence of token trees. -/
structure PlannedClass.IsSound (planned : PlannedClass) : Prop where
  className : HasIdentifierForm planned.file.className
  source : checkTokens planned.file.source = .ok ()
  ref : planned.ref.IsWellFormed

variable (project : Project) (settings : Settings)

/-- Planned quests are sound. -/
theorem isSound_of_mem_plannedQuests
    (destinations : Path.Map Path) :
    ∀ planned ∈ plannedQuests project settings destinations, planned.IsSound := by
  intro planned member
  obtain ⟨⟨quest, className⟩, inZip, rfl⟩ := List.mem_map.1 member
  have form := hasIdentifierForm_of_mem_questClassNames (List.of_mem_zip inZip).2
  have dotted := isDottedName_rootSpace project
  exact ⟨form, checkTokens_questFile quest form dotted _,
    ⟨form, Quest.isDottedName_classSpace dotted⟩⟩

/-- Planned characters are sound. -/
theorem isSound_of_mem_plannedNpcs :
    ∀ planned ∈ plannedNpcs project settings, planned.IsSound := by
  intro planned member
  obtain ⟨⟨npc, className⟩, inZip, rfl⟩ := List.mem_map.1 member
  have form := hasIdentifierForm_of_mem_npcClassNames (List.of_mem_zip inZip).2
  have dotted := isDottedName_rootSpace project
  exact ⟨form, checkTokens_npcFile npc form dotted,
    ⟨form, Npc.isDottedName_classSpace npc dotted⟩⟩

theorem isWellFormed_of_mem_buildInput
    (report : PlacementReport) :
    ∀ quest ∈ (buildInput project settings report).quests, quest.IsWellFormed := by
  intro quest member
  obtain ⟨planned, inPlan, rfl⟩ := List.mem_map.1 member
  exact (isSound_of_mem_plannedQuests project settings _ planned inPlan).ref

/-- A project-level file is no source file or a sequence of token trees. -/
def IsSoundFile (file : Build.File) : Prop :=
  (∀ base : Path, isSource (base.child file.name) = false) ∨
    checkTokens file.contents = .ok ()

/-- A file with another extension than that of sources is no source. -/
theorem isSource_eq_false
    {name extension : String}
    (dotted : IsDottedName name)
    (form : HasIdentifierForm extension)
    (different : extension ≠ Source.sourceExtension)
    (base : Path) :
    isSource (base.child (name ++ "." ++ extension)) = false := by
  rw [isSource, Path.extension?_child_of_isDottedName dotted form, beq_eq_false_iff_ne]
  exact fun equal => different (RawText.ofText_injective (Option.some.inj equal))

/-- Every project-level file is sound. -/
theorem isSoundFile_of_mem_files
    (report : PlacementReport) :
    ∀ file ∈ Build.files (buildInput project settings report), IsSoundFile file := by
  have dotted := isDottedName_rootSpace project
  have quests := isWellFormed_of_mem_buildInput project settings report
  have descriptorForm : HasIdentifierForm "csproj" := Source.hasIdentifierForm_ofList (by decide)
  have solutionForm : HasIdentifierForm "sln" := Source.hasIdentifierForm_ofList (by decide)
  simp only [Build.files, List.forall_mem_cons]
  refine ⟨.inl fun base => ?_, .inl fun base => ?_, .inr ?_, .inr ?_, List.forall_mem_nil _⟩
  · have name : rootSpace project ++ ".csproj" = rootSpace project ++ "." ++ "csproj" := by
      rw [String.append_assoc]
      rfl
    rw [Build.descriptor, buildInput, name]
    exact isSource_eq_false dotted descriptorForm (by decide) base
  · have name : rootSpace project ++ ".sln" = rootSpace project ++ "." ++ "sln" := by
      rw [String.append_assoc]
      rfl
    rw [Build.solution, buildInput, name]
    exact isSource_eq_false dotted solutionForm (by decide) base
  · exact checkTokens_constants dotted
  · exact checkTokens_entryPoint dotted quests

/-! ## Errors of a run -/

variable {settings}

theorem sourceErrors_eq_nil
    {path : Path}
    {source : String}
    (accepted : checkTokens source = .ok ()) :
    sourceErrors path source = [] := by
  rw [sourceErrors, accepted]

theorem checkedErrors_eq_nil
    {path : Path}
    {source : String}
    (accepted : checkTokens source = .ok ()) :
    checkedErrors settings path source = [] := by
  unfold checkedErrors
  split
  · exact sourceErrors_eq_nil accepted
  · rfl

theorem checkedErrors_buildFile
    {base : Path}
    {file : Build.File}
    (sound : IsSoundFile file) :
    (if isSource (base.child file.name) then
      checkedErrors settings (base.child file.name) file.contents else []) = [] := by
  rcases sound with noSource | accepted
  · rw [noSource]
    rfl
  · rw [checkedErrors_eq_nil accepted]
    exact ite_self []

/-- No error of the outcome is about a source. -/
def Outcome.AcceptsSources (outcome : Outcome) : Prop :=
  ∀ path failure, .badSource path failure ∉ outcome.errors

/-- Outcomes without an error about a source have none together. -/
theorem Outcome.AcceptsSources.append
    {first second : Outcome}
    (firstAccepts : first.AcceptsSources)
    (secondAccepts : second.AcceptsSources) :
    (first ++ second).AcceptsSources := by
  intro path failure member
  rcases List.mem_append.1 member with inFirst | inSecond
  · exact firstAccepts path failure inFirst
  · exact secondAccepts path failure inSecond

/-- The program ends without an error about a source. -/
abbrev AcceptsSources (program : Program Outcome) : Prop :=
  program.Satisfies (fun _ => True) Outcome.AcceptsSources

theorem acceptsSources_writeFile
    (path : Path)
    (contents : String) :
    AcceptsSources (writeFile path contents) := by
  refine (Program.satisfies_anything _).bind fun outcome _ => ?_
  cases outcome with
  | ok _ => exact fun _ _ member => nomatch member
  | error cause =>
      refine fun _ _ member => ?_
      cases List.mem_singleton.1 member

/-- Items whose programs accept sources can be written one by one. -/
theorem acceptsSources_writeEach
    {α : Type}
    {write : α → Program Outcome}
    {items : List α}
    (each : ∀ item ∈ items, AcceptsSources (write item)) :
    AcceptsSources (writeEach write items) := by
  induction items with
  | nil => exact fun _ _ member => nomatch member
  | cons item others ih =>
      obtain ⟨itemAccepts, othersAccept⟩ := List.forall_mem_cons.1 each
      refine itemAccepts.bind fun first firstAccepts => ?_
      refine (ih othersAccept).bind fun rest restAccepts => ?_
      exact firstAccepts.append restAccepts

theorem acceptsSources_writeClass
    {planned : PlannedClass}
    (sound : planned.IsSound) :
    AcceptsSources (writeClass settings planned) := by
  unfold writeClass
  rw [checkedErrors_eq_nil sound.source]
  refine (acceptsSources_writeFile _ _).bind fun outcome accepts => ?_
  exact Outcome.AcceptsSources.append (fun _ _ member => nomatch member) accepts

theorem acceptsSources_writeClasses
    {classes : List PlannedClass}
    (sound : ∀ planned ∈ classes, planned.IsSound) :
    AcceptsSources (writeClasses settings classes) := by
  rw [writeClasses_eq_writeEach]
  exact acceptsSources_writeEach fun planned member =>
    acceptsSources_writeClass (sound planned member)

theorem acceptsSources_writeBuildFile
    {file : Build.File}
    (sound : IsSoundFile file) :
    AcceptsSources (writeBuildFile settings file) := by
  unfold writeBuildFile
  dsimp only
  rw [checkedErrors_buildFile sound]
  refine (acceptsSources_writeFile _ _).bind fun outcome accepts => ?_
  exact Outcome.AcceptsSources.append (fun _ _ member => nomatch member) accepts

theorem acceptsSources_writeBuildFiles
    {files : List Build.File}
    (sound : ∀ file ∈ files, IsSoundFile file) :
    AcceptsSources (writeBuildFiles settings files) := by
  rw [writeBuildFiles_eq_writeEach]
  exact acceptsSources_writeEach fun file member =>
    acceptsSources_writeBuildFile (sound file member)

theorem acceptsSources_cleanUp (directories : List ClassDirectory) :
    AcceptsSources (cleanUp directories) := by
  refine (Program.satisfies_anything _).bind fun scanned _ => ?_
  cases scanned with
  | error failure =>
      refine fun _ _ member => ?_
      cases List.mem_singleton.1 member
  | ok stale =>
      refine (Program.satisfies_anything _).bind fun report _ => ?_
      refine fun _ _ member => ?_
      obtain ⟨_, _, equal⟩ := List.mem_map.1 member
      cases equal

theorem acceptsSources_generateFiles :
    AcceptsSources (generateFiles project settings) := by
  refine (Program.satisfies_anything _).bind fun report _ => ?_
  have quests := isSound_of_mem_plannedQuests project settings report.destinations
  have npcs := isSound_of_mem_plannedNpcs project settings
  have files := isSoundFile_of_mem_files project settings report
  have placed : (resourceOutcome report).AcceptsSources := by
    intro path failure member
    obtain ⟨_, _, equal⟩ := List.mem_map.1 member
    cases equal
  refine (acceptsSources_writeClasses quests).bind fun questOutcome questAccepts => ?_
  refine (acceptsSources_writeClasses npcs).bind fun npcOutcome npcAccepts => ?_
  refine (acceptsSources_cleanUp _).bind fun removalOutcome removalAccepts => ?_
  refine (acceptsSources_writeBuildFiles files).bind fun buildOutcome buildAccepts => ?_
  exact (((placed.append questAccepts).append npcAccepts).append removalAccepts).append
    buildAccepts

/-- A run never reports a bad source. -/
theorem acceptsSources_generate :
    (generate project settings).Satisfies (fun _ => True) fun result =>
      result.outcome.AcceptsSources := by
  have aborted (reason : Abort) : (failedRun reason).outcome.AcceptsSources := by
    intro path failure member
    cases List.mem_singleton.1 member
  unfold generate
  split
  · exact aborted _
  · refine (Program.satisfies_anything _).bind fun created _ => ?_
    cases created with
    | error reason => exact aborted reason
    | ok _ =>
        exact (acceptsSources_generateFiles project).bind fun outcome accepts => accepts

/-! ## Runs without the check -/

variable (settings)

/-- Classes are written alike whether or not their sources are checked. -/
theorem writeClasses_checkSources
    {classes : List PlannedClass}
    (sound : ∀ planned ∈ classes, planned.IsSound)
    (flag : Bool) :
    writeClasses { settings with checkSources := flag } classes =
      writeClasses settings classes := by
  rw [writeClasses_eq_writeEach, writeClasses_eq_writeEach]
  refine writeEach_congr fun planned member => ?_
  have accepted := (sound planned member).source
  rw [writeClass, writeClass, checkedErrors_eq_nil accepted, checkedErrors_eq_nil accepted]

/-- Project-level files are written alike whether or not their sources are checked. -/
theorem writeBuildFiles_checkSources
    {files : List Build.File}
    (sound : ∀ file ∈ files, IsSoundFile file)
    (flag : Bool) :
    writeBuildFiles { settings with checkSources := flag } files =
      writeBuildFiles settings files := by
  rw [writeBuildFiles_eq_writeEach, writeBuildFiles_eq_writeEach]
  refine writeEach_congr fun file member => ?_
  rw [writeBuildFile, writeBuildFile]
  rw [checkedErrors_buildFile (sound file member), checkedErrors_buildFile (sound file member)]

/-- The program of a run does not depend on whether sources are checked. -/
theorem generate_checkSources (flag : Bool) :
    generate project { settings with checkSources := flag } = generate project settings := by
  have same : generateFiles project { settings with checkSources := flag } =
      generateFiles project settings := by
    unfold generateFiles
    refine congrArg _ (funext fun report => ?_)
    have quests := writeClasses_checkSources settings
      (isSound_of_mem_plannedQuests project settings report.destinations) flag
    have npcs := writeClasses_checkSources settings
      (isSound_of_mem_plannedNpcs project settings) flag
    have files := writeBuildFiles_checkSources settings
      (isSoundFile_of_mem_files project settings report) flag
    dsimp only
    rw [← quests, ← npcs, ← files]
    rfl
  unfold generate
  rw [same]
  rfl

/-! ## Runs -/

/-- Sources are accepted whatever the texts of their blueprints are, so that no run
reports a bad source and the check of sources changes neither its result nor what it
does. -/
theorem generated_sources_accepted :
    (∀ (quest : Blueprint.Quest) (className root : String) (icon : Option String),
      HasIdentifierForm className → IsDottedName root →
        checkTokens (Quest.classFile quest className root icon).source = .ok ()) ∧
    (∀ (npc : Blueprint.Npc) (className root : String),
      HasIdentifierForm className → IsDottedName root →
        checkTokens (Npc.classFile npc className root).source = .ok ()) ∧
    (∀ input : Build.Input, IsDottedName input.root →
      (∀ ref ∈ input.quests ++ input.npcs, ref.IsWellFormed) →
        checkTokens (Build.constants input).contents = .ok () ∧
          checkTokens (Build.entryPoint input).contents = .ok ()) ∧
    (∀ (σ : Type) (handler : Handler σ) (project : Project) (settings : Settings) (state : σ),
      ((generate project settings).run handler state).1.outcome.AcceptsSources ∧
        ∀ flag, (generate project { settings with checkSources := flag }).run handler state =
          (generate project settings).run handler state) := by
  refine ⟨fun quest className root icon form dotted => ?_, fun npc className root form dotted => ?_,
    fun input dotted wellFormed => ⟨?_, ?_⟩, fun σ handler project settings state => ⟨?_, ?_⟩⟩
  · exact checkTokens_questFile quest form dotted icon
  · exact checkTokens_npcFile npc form dotted
  · exact checkTokens_constants dotted
  · exact checkTokens_entryPoint dotted fun quest member =>
      wellFormed quest (List.mem_append_left _ member)
  · exact (acceptsSources_generate project).run handler state
  · exact fun flag => by rw [generate_checkSources]

/-- Sources with quotes, comment marks and braces in their texts. -/
theorem accepted_sources_with_marks :
    HasIdentifierForm "Intro" ∧ IsDottedName "My.Mod" ∧
      checkTokens (Quest.classFile
        { className := "", questId := "a'*/", title := "say \"hi\" // \x7b", customIcon := true }
        "Intro" "My.Mod" (some "My.Mod.\"icon\".png")).source = .ok () ∧
      checkTokens (Npc.classFile
        { className := "", npcId := "\\\"", firstName := "]", greetings := ["\x7d", "\n"] }
        "Intro" "My.Mod").source = .ok () ∧
      checkTokens (Build.entryPoint
        { project := { name := "\"" }, settings := {}, root := "My.Mod",
          quests := [⟨"Intro", "My.Mod", "/*", true⟩] }).contents = .ok () := by
  have form : HasIdentifierForm "Intro" := by decide
  have dotted : IsDottedName "My.Mod" := by decide
  obtain ⟨questAccepted, npcAccepted, buildAccepted, _⟩ := generated_sources_accepted
  refine ⟨form, dotted, questAccepted _ _ _ _ form dotted, npcAccepted _ _ _ form dotted, ?_⟩
  refine (buildAccepted _ dotted fun ref member => ?_).2
  rw [List.mem_singleton.1 member]
  exact ⟨form, dotted⟩

end Generation
end QuestMod
