import QuestMod.Settings.Basic
import QuestMod.Proofs.Path.Component

/-!
# Separate folders

A layout that passes its check puts the three folders strictly below the output
directory and keeps them apart, also when the case of letters is ignored. Folders are
compared by the names along their paths, which single dots do not change.
-/

namespace QuestMod

/-- The path has all components of the base and at least one more. -/
def Path.IsBelow (path base : Path) : Prop :=
  ∃ rest ≠ [], path.components = base.components ++ rest

theorem Path.isBelow_of_isDirectlyIn
    {path directory : Path}
    (inside : path.isDirectlyIn directory = true) :
    path.IsBelow directory := by
  obtain ⟨last, _, equal⟩ := (Path.isDirectlyIn_iff path directory).1 inside
  exact ⟨[last], List.cons_ne_nil _ _, equal⟩

theorem Path.IsBelow.trans
    {path directory base : Path}
    (below : path.IsBelow directory)
    (directoryBelow : directory.IsBelow base) :
    path.IsBelow base := by
  obtain ⟨rest, _, equal⟩ := below
  obtain ⟨front, nonempty, equalFront⟩ := directoryBelow
  refine ⟨front ++ rest, ?_, ?_⟩
  · simp [nonempty]
  · rw [equal, equalFront, List.append_assoc]

theorem Path.IsBelow.components_ne
    {path base : Path}
    (below : path.IsBelow base) :
    path.components ≠ base.components := by
  obtain ⟨rest, nonempty, equal⟩ := below
  rw [equal]
  intro same
  exact nonempty (List.append_right_eq_self.1 same)

/-- Paths in different folders are different. -/
theorem Path.not_sameAs_of_isDirectlyIn
    {firstDirectory secondDirectory first second : Path}
    (different : firstDirectory.components ≠ secondDirectory.components)
    (inFirst : first.isDirectlyIn firstDirectory = true)
    (inSecond : second.isDirectlyIn secondDirectory = true) :
    first.sameAs second = false := by
  obtain ⟨last, _, equal⟩ := (Path.isDirectlyIn_iff first firstDirectory).1 inFirst
  obtain ⟨other, _, equalOther⟩ := (Path.isDirectlyIn_iff second secondDirectory).1 inSecond
  rw [sameAs, beq_eq_false_iff_ne, equal, equalOther]
  intro same
  exact different (List.append_inj' same rfl).1

/-- A path in a folder below the base does not lie in the base itself. -/
theorem Path.IsBelow.not_sameAs
    {directory base first second : Path}
    (below : directory.IsBelow base)
    (inDirectory : first.isDirectlyIn directory = true)
    (inBase : second.isDirectlyIn base = true) :
    second.sameAs first = false :=
  not_sameAs_of_isDirectlyIn below.components_ne.symm inBase inDirectory

namespace Settings

open QuestMod.Path (Component)

/-! ## Names along a path -/

/-- The lower-case names along a path. -/
def namesAlong (components : List Component) : List RawText :=
  components.filterMap fun component =>
    match component with
    | .named name => some name.folded
    | _ => none

theorem namesAlong_append (first second : List Component) :
    namesAlong (first ++ second) = namesAlong first ++ namesAlong second :=
  List.filterMap_append

/-- Single dots have no names. -/
theorem namesAlong_filter (components : List Component) :
    namesAlong (components.filter fun component => component != .current) =
      namesAlong components := by
  induction components with
  | nil => rfl
  | cons component rest ih =>
      rw [List.filter_cons]
      cases component
      case current => exact ih
      all_goals simpa [namesAlong] using ih

/-- The names of a path that is a text are shown as they are. -/
theorem namesAlong_of_relativeNames?
    {components : List Component}
    (texts : ∀ name : RawText, .named name ∈ components → ∃ text : String, name = text)
    {names : List String}
    (relative : relativeNames? components = some names) :
    namesAlong components = (names.map Text.foldCase).map RawText.ofText := by
  induction components generalizing names with
  | nil =>
      cases relative
      rfl
  | cons component rest ih =>
      have textsRest := fun name member => texts name (List.mem_cons_of_mem component member)
      cases component with
      | named name =>
          obtain ⟨others, relativeRest, rfl⟩ := Option.map_eq_some_iff.1 relative
          obtain ⟨text, rfl⟩ := texts name List.mem_cons_self
          have later := ih textsRest relativeRest
          rw [namesAlong] at later
          simp [namesAlong, later]
      | current => exact ih textsRest relative
      | root => cases relative
      | parent => cases relative

theorem root_not_mem_of_relativeNames?
    {components : List Component}
    {names : List String}
    (relative : relativeNames? components = some names) :
    .root ∉ components := by
  induction components generalizing names with
  | nil => exact List.not_mem_nil
  | cons component rest ih =>
      cases component with
      | named name =>
          obtain ⟨others, relativeRest, rfl⟩ := Option.map_eq_some_iff.1 relative
          simpa using ih relativeRest
      | current => simpa using ih relative
      | root => cases relative
      | parent => cases relative

/-! ## Subdirectories -/

/-- The names of a subdirectory are those along its path, and there is at least one. -/
theorem namesAlong_of_subdirectoryNames?
    {name : String}
    {parts : List String}
    (subdirectory : subdirectoryNames? name = some parts) :
    namesAlong (Path.mk name).components = parts.map RawText.ofText ∧ parts ≠ [] ∧
      (Path.mk name).isAbsolute = false := by
  unfold subdirectoryNames? at subdirectory
  split at subdirectory
  · rename_i first rest relative
    cases subdirectory
    have along := namesAlong_of_relativeNames? (fun _ => Path.text_of_named) relative
    refine ⟨along, by simp, ?_⟩
    have noRoot := root_not_mem_of_relativeNames? relative
    rcases Path.kinds (Path.mk name).bytes with empty | ⟨others, absolute⟩ | ⟨_, _, _, _, front⟩
    · simp [Path.isAbsolute, empty]
    · rw [Path.components, absolute, Path.componentsOf_absolute] at noRoot
      exact absurd List.mem_cons_self noRoot
    · simpa [Path.isAbsolute] using front
  · cases subdirectory

/-- A subdirectory lies below its base and adds its names to those of the base. -/
theorem isBelow_child
    {name : String}
    {parts : List String}
    (subdirectory : subdirectoryNames? name = some parts)
    (base : Path) :
    (base.child name).IsBelow base ∧
      namesAlong (base.child name).components =
        namesAlong base.components ++ parts.map RawText.ofText := by
  obtain ⟨names, nonempty, relative⟩ := namesAlong_of_subdirectoryNames? subdirectory
  have filled : ∀ components, namesAlong components = parts.map RawText.ofText →
      components ≠ [] := by
    rintro components along rfl
    exact nonempty (List.map_eq_nil_iff.1 along.symm)
  cases empty : base.isEmpty with
  | true =>
      have noComponents : base.components = [] := by
        have blank : base.bytes = [] := by simpa [Path.isEmpty] using empty
        rw [Path.components, blank]
        rfl
      rw [Path.child, Path.join_of_isEmpty empty, Path.IsBelow, noComponents]
      exact ⟨⟨_, filled _ names, rfl⟩, names⟩
  | false =>
      have kept := namesAlong_filter (Path.mk name).components
      rw [Path.child, Path.IsBelow, Path.components_join empty relative, namesAlong_append, kept,
        names]
      exact ⟨⟨_, filled _ (kept.trans names), rfl⟩, rfl⟩

/-! ## The check -/

/-- The folders lie below the output directory, and no two are the same. -/
structure HasSeparateFolders (settings : Settings) : Prop where
  quest : settings.questFolder.IsBelow settings.outputDirectory
  npc : settings.npcFolder.IsBelow settings.outputDirectory
  resource : settings.resourceFolder.IsBelow settings.outputDirectory
  questNpc : settings.questFolder.components ≠ settings.npcFolder.components
  questResource : settings.questFolder.components ≠ settings.resourceFolder.components
  npcResource : settings.npcFolder.components ≠ settings.resourceFolder.components

/-- Subdirectories that do not overlap have different names along their paths. -/
theorem namesAlong_child_ne
    {first second : String}
    {firstParts secondParts : List String}
    (firstNames : subdirectoryNames? first = some firstParts)
    (secondNames : subdirectoryNames? second = some secondParts)
    (apart : firstParts.isPrefixOf secondParts = false)
    (base : Path) :
    namesAlong (base.child first).components ≠ namesAlong (base.child second).components := by
  rw [(isBelow_child firstNames base).2, (isBelow_child secondNames base).2]
  intro along
  have parts := (List.map_inj_right fun _ _ same => RawText.ofText_injective same).1
    (List.append_cancel_left along)
  rw [parts, List.isPrefixOf_iff_prefix.2 (List.prefix_refl _)] at apart
  cases apart

/-- Subdirectories that do not overlap are different folders. -/
theorem child_components_ne
    {first second : String}
    {firstParts secondParts : List String}
    (firstNames : subdirectoryNames? first = some firstParts)
    (secondNames : subdirectoryNames? second = some secondParts)
    (apart : firstParts.isPrefixOf secondParts = false)
    (base : Path) :
    (base.child first).components ≠ (base.child second).components :=
  fun same => namesAlong_child_ne firstNames secondNames apart base (congrArg namesAlong same)

/-- Directories in the order of the check do not overlap with any later one. -/
theorem not_overlaps_of_firstOverlap?
    {parsed : List ParsedDirectory}
    (noOverlap : firstOverlap? parsed = none) :
    parsed.Pairwise fun first second => first.overlaps second = false := by
  induction parsed with
  | nil => exact .nil
  | cons first rest ih =>
      unfold firstOverlap? at noOverlap
      split at noOverlap
      · cases noOverlap
      · rename_i apart
        refine .cons (fun second member => ?_) (ih noOverlap)
        simpa using List.find?_eq_none.1 apart second member

/-- A layout that passes the check has subdirectories that do not overlap. -/
theorem parsed_of_checkDirectories
    {settings : Settings}
    (passes : settings.checkDirectories = .ok ()) :
    ∃ quest npc resource,
      subdirectoryNames? settings.questDirectory = some quest ∧
      subdirectoryNames? settings.npcDirectory = some npc ∧
      subdirectoryNames? settings.resourceDirectory = some resource ∧
      firstOverlap? [⟨.quest, settings.questDirectory, quest⟩,
        ⟨.npc, settings.npcDirectory, npc⟩,
        ⟨.resource, settings.resourceDirectory, resource⟩] = none := by
  unfold checkDirectories subdirectories at passes
  simp only [List.mapM_cons, List.mapM_nil, parseDirectory] at passes
  cases quest : subdirectoryNames? settings.questDirectory with
  | none =>
      rw [quest] at passes
      cases passes
  | some questParts =>
      rw [quest] at passes
      cases npc : subdirectoryNames? settings.npcDirectory with
      | none =>
          rw [npc] at passes
          cases passes
      | some npcParts =>
          rw [npc] at passes
          cases resource : subdirectoryNames? settings.resourceDirectory with
          | none =>
              rw [resource] at passes
              cases passes
          | some resourceParts =>
              rw [resource] at passes
              refine ⟨questParts, npcParts, resourceParts, rfl, rfl, rfl, ?_⟩
              refine Option.eq_none_iff_forall_ne_some.2 fun failure overlap => ?_
              simp only [pure, Except.pure, bind, Except.bind, overlap] at passes
              cases passes

/-- The check passes only layouts with separate folders. -/
theorem hasSeparateFolders_of_checkDirectories
    {settings : Settings}
    (passes : settings.checkDirectories = .ok ()) :
    settings.HasSeparateFolders := by
  obtain ⟨questParts, npcParts, resourceParts, quest, npc, resource, apart⟩ :=
    parsed_of_checkDirectories passes
  have pairs := not_overlaps_of_firstOverlap? apart
  simp only [List.pairwise_cons, List.mem_cons, List.not_mem_nil, or_false, forall_eq_or_imp,
    forall_eq, ParsedDirectory.overlaps, Bool.or_eq_false_iff] at pairs
  obtain ⟨⟨questNpc, questResource⟩, ⟨npcResource, _⟩⟩ := pairs
  exact {
    quest := (isBelow_child quest _).1
    npc := (isBelow_child npc _).1
    resource := (isBelow_child resource _).1
    questNpc := child_components_ne quest npc questNpc.1 _
    questResource := child_components_ne quest resource questResource.1 _
    npcResource := child_components_ne npc resource npcResource.1 _ }

end Settings
end QuestMod
