import QuestMod.Proofs.Settings.Layout

/-!
# The layouts that pass

A subdirectory is proper when its path, single dots left out, has a component and neither a
root nor a double dot. A layout passes its check exactly when the three subdirectories are
proper and none of them lies at or below another, the case of letters ignored. Then the
folders lie strictly below the output directory, and no path lies at or below two of them.
-/

namespace QuestMod
namespace Path

/-! ## Paths without regard to case -/

/-- The components of a path, single dots left out. -/
def steps (path : Path) : List Component :=
  path.components.filter fun component => component != .current

/-- The components of a path in lower case, single dots left out. -/
def foldedSteps (path : Path) : List Component :=
  path.steps.map Component.folded

/-- The path lies at or below the directory, the case of letters ignored. -/
def LiesIn (path directory : Path) : Prop :=
  directory.foldedSteps <+: path.foldedSteps

instance (path directory : Path) : Decidable (path.LiesIn directory) :=
  inferInstanceAs (Decidable (_ <+: _))

/-- A path lies in two directories only when one of them lies in the other. -/
theorem LiesIn.nested
    {path first second : Path}
    (inFirst : path.LiesIn first)
    (inSecond : path.LiesIn second) :
    first.LiesIn second ∨ second.LiesIn first :=
  (List.prefix_or_prefix_of_prefix inFirst inSecond).symm

/-- A relative path adds its components to those of its base. -/
theorem foldedSteps_join
    (base : Path)
    {tail : Path}
    (relative : tail.isAbsolute = false) :
    (base.join tail).foldedSteps = base.foldedSteps ++ tail.foldedSteps := by
  cases empty : base.isEmpty with
  | true =>
      have blank : base.bytes = [] := by simpa [isEmpty] using empty
      have noSteps : base.foldedSteps = [] := by
        rw [foldedSteps, steps, components, blank]
        rfl
      rw [join_of_isEmpty empty, noSteps, List.nil_append]
  | false =>
      unfold foldedSteps steps
      rw [components_join empty relative, List.filter_append, List.filter_filter, List.map_append]
      simp only [Bool.and_self]

end Path

namespace Settings

open QuestMod.Path (Component)

/-! ## Proper subdirectories -/

/-- The name leads to a place strictly below the directory that it is read from. -/
structure IsSubdirectory (name : String) : Prop where
  nonempty : (Path.mk name).steps ≠ []
  noRoot : .root ∉ (Path.mk name).steps
  noParent : .parent ∉ (Path.mk name).steps

/-- A path has names when only names are left without its single dots. -/
theorem relativeNames?_eq_some_iff
    {components : List Component}
    {shown : List String} :
    relativeNames? components = some shown ↔
      ∃ names : List RawText,
        components.filter (fun component => component != .current) = names.map .named ∧
          names.map RawText.shown = shown := by
  induction components generalizing shown with
  | nil => simp [relativeNames?, eq_comm]
  | cons component rest ih =>
      have stops (other : Component) (notNamed : ∀ name, other ≠ .named name)
          (later : List Component) :
          ¬ ∃ names : List RawText, other :: later = names.map .named ∧
            names.map RawText.shown = shown := by
        rintro ⟨names, along, _⟩
        cases names with
        | nil => cases along
        | cons name names => exact notNamed name (List.cons.inj along).1
      cases component with
      | root => simpa [relativeNames?] using stops .root (fun _ => nofun) _
      | parent => simpa [relativeNames?] using stops .parent (fun _ => nofun) _
      | current => simpa [relativeNames?] using ih
      | named name =>
          rw [relativeNames?, Option.map_eq_some_iff]
          constructor
          · rintro ⟨others, relative, rfl⟩
            obtain ⟨names, along, rfl⟩ := ih.1 relative
            exact ⟨name :: names, by simpa using along, rfl⟩
          · rintro ⟨names, along, rfl⟩
            cases names with
            | nil => simp at along
            | cons first names =>
                obtain ⟨rfl, later⟩ : name = first ∧ _ := by simpa using along
                exact ⟨_, ih.2 ⟨names, later, rfl⟩, rfl⟩

/-- Components other than single dots, double dots and roots are names. -/
theorem exists_names
    {components : List Component}
    (noRoot : .root ∉ components)
    (noParent : .parent ∉ components)
    (noCurrent : .current ∉ components) :
    ∃ names : List RawText, components = names.map .named := by
  induction components with
  | nil => exact ⟨[], rfl⟩
  | cons component rest ih =>
      rw [List.mem_cons, not_or] at noRoot noParent noCurrent
      obtain ⟨names, rfl⟩ := ih noRoot.2 noParent.2 noCurrent.2
      cases component with
      | root => exact absurd rfl noRoot.1
      | parent => exact absurd rfl noParent.1
      | current => exact absurd rfl noCurrent.1
      | named name => exact ⟨name :: names, rfl⟩

/-- A proper subdirectory has names. -/
theorem IsSubdirectory.exists_names
    {name : String}
    (proper : IsSubdirectory name) :
    ∃ first rest, (Path.mk name).steps = (first :: rest).map Component.named := by
  have noCurrent : Component.current ∉ (Path.mk name).steps := by simp [Path.steps]
  obtain ⟨names, along⟩ := Settings.exists_names proper.noRoot proper.noParent noCurrent
  cases names with
  | nil => exact absurd along proper.nonempty
  | cons first rest => exact ⟨first, rest, along⟩

/-- The check reads lower-case names off proper subdirectories only. -/
theorem isSubdirectory_of_subdirectoryNames?
    {name : String}
    {parts : List String}
    (subdirectory : subdirectoryNames? name = some parts) :
    IsSubdirectory name ∧ (Path.mk name).foldedSteps = parts.map fun part => .named ↑part := by
  unfold subdirectoryNames? at subdirectory
  split at subdirectory
  · rename_i first rest relative
    cases subdirectory
    obtain ⟨names, along, shown⟩ := relativeNames?_eq_some_iff.1 relative
    have along : (Path.mk name).steps = names.map Component.named := along
    rw [← shown]
    refine ⟨⟨?_, ?_, ?_⟩, ?_⟩
    · rw [along]
      rintro empty
      rw [List.map_eq_nil_iff.1 empty] at shown
      cases shown
    · simp [along]
    · simp [along]
    · rw [Path.foldedSteps, along, List.map_map, List.map_map, List.map_map]
      apply List.map_congr_left
      intro raw member
      have step : .named raw ∈ (Path.mk name).steps := along ▸ List.mem_map_of_mem member
      have inside : .named raw ∈ (Path.mk name).components := (List.mem_filter.1 step).1
      obtain ⟨text, rfl⟩ := Path.text_of_named inside
      simp [Component.folded]
  · cases subdirectory

/-- The check reads names off every proper subdirectory. -/
theorem IsSubdirectory.exists_parts
    {name : String}
    (proper : IsSubdirectory name) :
    ∃ parts, subdirectoryNames? name = some parts := by
  obtain ⟨first, rest, along⟩ := proper.exists_names
  have relative := relativeNames?_eq_some_iff.2 ⟨first :: rest, along, rfl⟩
  exact ⟨_, by rw [subdirectoryNames?, relative, List.map_cons]⟩

/-- A proper subdirectory is relative. -/
theorem IsSubdirectory.isAbsolute
    {name : String}
    (proper : IsSubdirectory name) :
    (Path.mk name).isAbsolute = false := by
  obtain ⟨parts, subdirectory⟩ := proper.exists_parts
  exact (namesAlong_of_subdirectoryNames? subdirectory).2.2

/-! ## The check -/

/-- Neither subdirectory lies at or below the other. -/
def Apart (first second : String) : Prop :=
  ¬ (Path.mk second).LiesIn ⟨first⟩ ∧ ¬ (Path.mk first).LiesIn ⟨second⟩

/-- The three subdirectories are proper, and none of them lies at or below another. -/
structure HasProperLayout (settings : Settings) : Prop where
  proper : ∀ entry ∈ settings.subdirectories, IsSubdirectory entry.2
  apart : settings.subdirectories.Pairwise fun first second => Apart first.2 second.2

/-- The subdirectory with the names that the check reads off it. -/
def parsedEntry (entry : DirectoryKey × String) : ParsedDirectory :=
  ⟨entry.1, entry.2, (subdirectoryNames? entry.2).getD []⟩

/-- A proper subdirectory is parsed, and any other is refused. -/
theorem parseDirectory_eq_ok_iff
    {entry : DirectoryKey × String}
    {parsed : ParsedDirectory} :
    parseDirectory entry = .ok parsed ↔ IsSubdirectory entry.2 ∧ parsed = parsedEntry entry := by
  unfold parseDirectory parsedEntry
  cases names : subdirectoryNames? entry.2 with
  | some parts =>
      have proper := (isSubdirectory_of_subdirectoryNames? names).1
      simp [proper, eq_comm]
  | none =>
      have improper : ¬ IsSubdirectory entry.2 := by
        intro proper
        obtain ⟨parts, found⟩ := proper.exists_parts
        rw [names] at found
        cases found
      simp [improper]

/-- Two steps succeed when the first one does and the second one does with its value. -/
theorem bind_eq_ok_iff
    {ε α β : Type}
    {first : Except ε α}
    {next : α → Except ε β}
    {result : β} :
    (first >>= next) = .ok result ↔ ∃ value, first = .ok value ∧ next value = .ok result := by
  cases first <;> simp [bind, Except.bind]

/-- The subdirectories are parsed when all of them are proper. -/
theorem mapM_parseDirectory_eq_ok_iff
    {entries : List (DirectoryKey × String)}
    {parsed : List ParsedDirectory} :
    entries.mapM parseDirectory = .ok parsed ↔
      (∀ entry ∈ entries, IsSubdirectory entry.2) ∧ parsed = entries.map parsedEntry := by
  induction entries generalizing parsed with
  | nil =>
      rw [List.mapM_nil]
      simp [pure, Except.pure, eq_comm]
  | cons entry rest ih =>
      rw [List.mapM_cons, List.forall_mem_cons, List.map_cons]
      simp only [bind_eq_ok_iff, parseDirectory_eq_ok_iff, ih, pure, Except.pure,
        Except.ok.injEq]
      constructor
      · rintro ⟨_, ⟨proper, rfl⟩, _, ⟨others, rfl⟩, rfl⟩
        exact ⟨⟨proper, others⟩, rfl⟩
      · rintro ⟨⟨proper, others⟩, rfl⟩
        exact ⟨_, ⟨proper, rfl⟩, _, ⟨others, rfl⟩, rfl⟩

/-- Directories without a first overlap are those that do not overlap in pairs. -/
theorem firstOverlap?_eq_none_iff {parsed : List ParsedDirectory} :
    firstOverlap? parsed = none ↔
      parsed.Pairwise fun first second => first.overlaps second = false := by
  refine ⟨not_overlaps_of_firstOverlap?, fun apart => ?_⟩
  induction parsed with
  | nil => rfl
  | cons first rest ih =>
      obtain ⟨fromFirst, others⟩ := List.pairwise_cons.1 apart
      have noneFound : rest.find? first.overlaps = none := by
        apply List.find?_eq_none.2
        intro second member
        simp [fromFirst second member]
      rw [firstOverlap?, noneFound]
      exact ih others

/-- Proper subdirectories do not overlap when they are apart. -/
theorem overlaps_parsedEntry_eq_false_iff
    {first second : DirectoryKey × String}
    (firstProper : IsSubdirectory first.2)
    (secondProper : IsSubdirectory second.2) :
    (parsedEntry first).overlaps (parsedEntry second) = false ↔ Apart first.2 second.2 := by
  obtain ⟨firstParts, firstNames⟩ := firstProper.exists_parts
  obtain ⟨secondParts, secondNames⟩ := secondProper.exists_parts
  have injective : Function.Injective fun part : String => Component.named part :=
    fun _ _ same => RawText.ofText_injective (Component.named.inj same)
  rw [Apart, Path.LiesIn, Path.LiesIn, (isSubdirectory_of_subdirectoryNames? firstNames).2,
    (isSubdirectory_of_subdirectoryNames? secondNames).2,
    List.prefix_map_iff_of_injective injective, List.prefix_map_iff_of_injective injective,
    ParsedDirectory.overlaps, parsedEntry, parsedEntry, firstNames, secondNames,
    Bool.or_eq_false_iff, ← Bool.not_eq_true, ← Bool.not_eq_true, List.isPrefixOf_iff_prefix,
    List.isPrefixOf_iff_prefix, Option.getD_some, Option.getD_some]

/-- Proper subdirectories have no first overlap when they are apart in pairs. -/
theorem firstOverlap?_map_eq_none_iff
    {entries : List (DirectoryKey × String)}
    (proper : ∀ entry ∈ entries, IsSubdirectory entry.2) :
    firstOverlap? (entries.map parsedEntry) = none ↔
      entries.Pairwise fun first second => Apart first.2 second.2 := by
  rw [firstOverlap?_eq_none_iff, List.pairwise_map]
  apply List.Pairwise.iff_of_mem
  intro first second firstKnown secondKnown
  exact overlaps_parsedEntry_eq_false_iff (proper first firstKnown) (proper second secondKnown)

/-- The check passes exactly the proper layouts. -/
theorem checkDirectories_eq_ok_iff {settings : Settings} :
    settings.checkDirectories = .ok () ↔ settings.HasProperLayout := by
  simp only [checkDirectories, bind_eq_ok_iff, mapM_parseDirectory_eq_ok_iff]
  constructor
  · rintro ⟨_, ⟨proper, rfl⟩, passes⟩
    refine ⟨proper, (firstOverlap?_map_eq_none_iff proper).1 ?_⟩
    split at passes
    · cases passes
    · assumption
  · rintro ⟨proper, apart⟩
    refine ⟨_, ⟨proper, rfl⟩, ?_⟩
    rw [(firstOverlap?_map_eq_none_iff proper).2 apart]

/-! ## The folders -/

/-- The folders that a run writes classes and resources to. -/
def folders (settings : Settings) : List Path :=
  [settings.questFolder, settings.npcFolder, settings.resourceFolder]

/-- A folder adds the components of its subdirectory to those of the base. -/
theorem IsSubdirectory.foldedSteps_child
    {name : String}
    (proper : IsSubdirectory name)
    (base : Path) :
    (base.child name).foldedSteps = base.foldedSteps ++ (Path.mk name).foldedSteps :=
  Path.foldedSteps_join base proper.isAbsolute

/-- A folder lies strictly below its base. -/
theorem IsSubdirectory.isBelow_child
    {name : String}
    (proper : IsSubdirectory name)
    (base : Path) :
    (base.child name).IsBelow base := by
  obtain ⟨parts, subdirectory⟩ := proper.exists_parts
  exact (Settings.isBelow_child subdirectory base).1

/-- No path lies in the folders of two subdirectories of which none lies in the other. -/
theorem not_liesIn_both
    {first second : String}
    (firstProper : IsSubdirectory first)
    (secondProper : IsSubdirectory second)
    (apart : Apart first second)
    (base path : Path) :
    ¬ (path.LiesIn (base.child first) ∧ path.LiesIn (base.child second)) := by
  rintro ⟨inFirst, inSecond⟩
  have nested := inFirst.nested inSecond
  rw [Path.LiesIn, Path.LiesIn, firstProper.foldedSteps_child, secondProper.foldedSteps_child,
    List.prefix_append_right_inj, List.prefix_append_right_inj] at nested
  rcases nested with firstInSecond | secondInFirst
  · exact apart.2 firstInSecond
  · exact apart.1 secondInFirst

/-- The check passes a layout exactly when its subdirectories are proper and none lies at or
below another. Then all folders lie strictly below the output directory, and no path lies at
or below two of them. -/
theorem checkDirectories_exact_and_separating (settings : Settings) :
    (settings.checkDirectories = .ok () ↔ settings.HasProperLayout) ∧
      (settings.checkDirectories = .ok () →
        (∀ folder ∈ settings.folders, folder.IsBelow settings.outputDirectory) ∧
          settings.folders.Pairwise fun first second =>
            ∀ path : Path, ¬ (path.LiesIn first ∧ path.LiesIn second)) := by
  refine ⟨checkDirectories_eq_ok_iff, fun passes => ?_⟩
  obtain ⟨proper, apart⟩ := checkDirectories_eq_ok_iff.1 passes
  have folders : settings.folders =
      settings.subdirectories.map fun entry => settings.outputDirectory.child entry.2 := rfl
  rw [folders]
  constructor
  · intro folder member
    obtain ⟨entry, known, rfl⟩ := List.mem_map.1 member
    exact (proper entry known).isBelow_child settings.outputDirectory
  · apply List.pairwise_map.2
    apply apart.imp_of_mem
    intro first second firstKnown secondKnown different
    exact not_liesIn_both (proper first firstKnown) (proper second secondKnown) different
      settings.outputDirectory

/-- A layout with repeated separators, single dots and letters of either case. -/
def dottedLayout : Settings where
  outputDirectory := ⟨"./mods"⟩
  questDirectory := "src//Quests/"
  npcDirectory := "./SRC/./NPCs"

/-- The dotted layout passes, and a path in its folder of quests, in whatever case it is
written, does not lie in its folder of characters. -/
theorem dottedLayout_separates :
    dottedLayout.checkDirectories = .ok () ∧
      (Path.mk "MODS/SRC/quests/./Lantern.cs").LiesIn dottedLayout.questFolder ∧
      ¬ (Path.mk "MODS/SRC/quests/./Lantern.cs").LiesIn dottedLayout.npcFolder := by
  have passes : dottedLayout.checkDirectories = .ok () := rfl
  have inQuests : (Path.mk "MODS/SRC/quests/./Lantern.cs").LiesIn dottedLayout.questFolder := by
    decide
  refine ⟨passes, inQuests, fun inNpcs => ?_⟩
  have separate := ((checkDirectories_exact_and_separating dottedLayout).2 passes).2
  exact (List.pairwise_cons.1 separate).1 _ List.mem_cons_self _ ⟨inQuests, inNpcs⟩

end Settings
end QuestMod
