import QuestMod.Proofs.Generation.CleanUp
import QuestMod.Proofs.Path.Order
import QuestMod.Proofs.Settings.Layout
import QuestMod.Proofs.Storage.Locking

/-!
# Planned removals

A plan is made from the listings of all class directories, or not at all. It holds the stale
class files of each directory, in path order and none twice, and since no file lies in two
different directories, none is planned twice in all. So a planned file is removed or refused
once, in plan order, and whatever is refused is left. When nothing was refused nothing is left
to plan or to remove.
-/

namespace QuestMod
namespace Generation

open Storage (Failure Handler Program Request)

/-! ## Listing the directories -/

section

variable {σ : Type} {handler : Handler σ} {directories : List ClassDirectory} {state : σ}

/-- What a store answers when it is asked to list the directories, one after the other. -/
def listingAnswers
    (handler : Handler σ) :
    List ClassDirectory → σ → List (ClassDirectory × Except Failure (List Path))
  | [], _ => []
  | classes :: rest, state =>
      (classes, (handler (.list classes.directory Source.sourceExtension) state).1) ::
        listingAnswers handler rest
          (handler (.list classes.directory Source.sourceExtension) state).2

/-- The first directory that cannot be listed stops listing. -/
theorem run_listAll_of_error
    {before after : List (ClassDirectory × Except Failure (List Path))}
    {classes : ClassDirectory}
    {cause : Failure}
    (answers :
      listingAnswers handler directories state = before ++ (classes, .error cause) :: after)
    (listed : ∀ answer ∈ before, ∃ present, answer.2 = .ok present) :
    ((listAll directories).run handler state).1 = .error ⟨classes.directory, cause⟩ := by
  induction directories generalizing state before with
  | nil => simp [listingAnswers] at answers
  | cons first rest ih =>
      rw [listingAnswers] at answers
      rw [listAll, Program.run_bind, Program.list, Program.run_ask]
      cases before with
      | nil =>
          obtain ⟨head, _⟩ := List.cons.inj answers
          obtain ⟨rfl, failed⟩ := Prod.mk.inj head
          rw [failed]
          rfl
      | cons answer before =>
          obtain ⟨rfl, later⟩ := List.cons.inj answers
          obtain ⟨⟨present, succeeded⟩, others⟩ := List.forall_mem_cons.1 listed
          dsimp only at succeeded
          rw [succeeded]
          dsimp only
          rw [Program.run_bind, ih later others]
          rfl

/-- When every directory is listed, listing answers with all listings. -/
theorem run_listAll_of_ok
    {listings : List (ClassDirectory × List Path)}
    (answers : listingAnswers handler directories state =
      listings.map fun listing => (listing.1, .ok listing.2)) :
    ((listAll directories).run handler state).1 = .ok listings := by
  induction directories generalizing state listings with
  | nil =>
      cases listings with
      | nil => rfl
      | cons listing listings => cases answers
  | cons first rest ih =>
      cases listings with
      | nil => cases answers
      | cons listing listings =>
          obtain ⟨head, later⟩ := List.cons.inj answers
          obtain ⟨rfl, succeeded⟩ := Prod.mk.inj head
          rw [listAll, Program.run_bind, Program.list, Program.run_ask, succeeded]
          dsimp only
          rw [Program.run_bind, ih later]
          rfl

/-- Of the answers that are failures one is the first. -/
theorem exists_first_error
    {answers : List (ClassDirectory × Except Failure (List Path))}
    (failed : ∃ answer ∈ answers, ∃ cause, answer.2 = .error cause) :
    ∃ before classes cause after, answers = before ++ (classes, .error cause) :: after ∧
      ∀ answer ∈ before, ∃ present, answer.2 = .ok present := by
  induction answers with
  | nil =>
      obtain ⟨answer, member, _⟩ := failed
      cases member
  | cons first rest ih =>
      obtain ⟨classes, answer⟩ := first
      cases answer with
      | error cause => exact ⟨[], classes, cause, rest, rfl, List.forall_mem_nil _⟩
      | ok present =>
          obtain ⟨failing, member, cause, equal⟩ := failed
          rcases List.mem_cons.1 member with rfl | later
          · cases equal
          · obtain ⟨before, stopped, why, after, splits, listed⟩ :=
              ih ⟨failing, later, cause, equal⟩
            exact ⟨_, stopped, why, after, congrArg ((classes, .ok present) :: ·) splits,
              List.forall_mem_cons.2 ⟨⟨present, rfl⟩, listed⟩⟩

/-- Answers that are no failures are listings. -/
theorem exists_listings
    {answers : List (ClassDirectory × Except Failure (List Path))}
    (listed : ¬ ∃ answer ∈ answers, ∃ cause, answer.2 = .error cause) :
    ∃ listings : List (ClassDirectory × List Path),
      answers = listings.map fun listing => (listing.1, .ok listing.2) := by
  induction answers with
  | nil => exact ⟨[], rfl⟩
  | cons first rest ih =>
      obtain ⟨classes, answer⟩ := first
      cases answer with
      | error cause => exact absurd ⟨_, List.mem_cons_self, cause, rfl⟩ listed
      | ok present =>
          obtain ⟨listings, rfl⟩ := ih fun failed => by
            obtain ⟨answer, member, failing⟩ := failed
            exact listed ⟨answer, List.mem_cons_of_mem _ member, failing⟩
          exact ⟨(classes, present) :: listings, rfl⟩

theorem run_scan_fst (handler : Handler σ) (directories : List ClassDirectory) (state : σ) :
    ((scan directories).run handler state).1 =
      ((listAll directories).run handler state).1.map planOfListings := by
  rw [scan, Program.run_bind]
  cases ((listAll directories).run handler state).1 <;> rfl

/-- A clean-up whose scan fails removes nothing. -/
theorem removed?_of_mem_requests_cleanUp
    {failure : ScanFailure}
    (failed : ((scan directories).run handler state).1 = .error failure)
    {asked : Request}
    (member : asked ∈ (cleanUp directories).requests handler state) :
    asked.removed? = none := by
  have lists := @satisfies_scan (fun asked => asked.removed? = none) directories fun _ _ => rfl
  rw [cleanUp, Program.requests_bind, failed] at member
  rcases List.mem_append.1 member with inScan | behind
  · exact lists.requests handler state asked inScan
  · cases behind

theorem map_fst_listingAnswers
    (handler : Handler σ)
    (directories : List ClassDirectory)
    (state : σ) :
    (listingAnswers handler directories state).map Prod.fst = directories := by
  induction directories generalizing state with
  | nil => rfl
  | cons classes rest ih => rw [listingAnswers, List.map_cons, ih]

end

/-! ## The plan -/

/-- The path is a class file in the directory, and no current class has its name: told by
parent, extension and file name. -/
structure IsStaleIn (classes : ClassDirectory) (path : Path) : Prop where
  parent : ∃ parent, path.parent? = some parent ∧
    parent.components = classes.directory.components
  extension : ∃ extension : String, path.extension? = some ↑extension ∧
    Text.sameIgnoringCase extension "cs" = true
  unexpected : ∃ name : String, path.fileName? = some ↑name ∧
    ∀ expected ∈ classes.expected, Text.sameIgnoringCase expected name = false

theorem isStale_iff {classes : ClassDirectory} {path : Path} :
    classes.isStale path = true ↔ IsStaleIn classes path := by
  rw [ClassDirectory.isStale, Bool.and_eq_true, Bool.and_eq_true, Path.isDirectlyIn,
    Path.hasExtension]
  constructor
  · rintro ⟨⟨parent, extension⟩, unexpected⟩
    refine ⟨?_, ?_, ?_⟩
    · cases above : path.parent? with
      | none =>
          rw [above] at parent
          cases parent
      | some directory =>
          rw [above] at parent
          exact ⟨directory, rfl, Path.sameAs_iff.1 parent⟩
    · cases ending : path.extension?.bind RawText.text? with
      | none =>
          rw [ending] at extension
          cases extension
      | some own =>
          rw [ending] at extension
          exact ⟨own, RawText.bind_text?_eq_some_iff.1 ending, extension⟩
    · cases named : path.fileName?.bind RawText.text? with
      | none =>
          rw [named] at unexpected
          cases unexpected
      | some name =>
          rw [named] at unexpected
          exact ⟨name, RawText.bind_text?_eq_some_iff.1 named,
            by simpa [ClassDirectory.expects] using unexpected⟩
  · rintro ⟨⟨parent, above, same⟩, ⟨own, ending, extension⟩, ⟨name, named, unexpected⟩⟩
    rw [above, RawText.bind_text?_eq_some_iff.2 ending, RawText.bind_text?_eq_some_iff.2 named]
    refine ⟨⟨Path.sameAs_iff.2 same, extension⟩, ?_⟩
    simpa [ClassDirectory.expects] using unexpected

theorem isDirectlyIn_of_isStale
    {classes : ClassDirectory}
    {path : Path}
    (stale : classes.isStale path = true) :
    path.isDirectlyIn classes.directory = true := by
  rw [ClassDirectory.isStale, Bool.and_eq_true, Bool.and_eq_true] at stale
  exact stale.1.1

/-- No file lies in two different directories. -/
theorem not_isDirectlyIn_of_isDirectlyIn
    {path first second : Path}
    (different : first.sameAs second = false)
    (inFirst : path.isDirectlyIn first = true) :
    path.isDirectlyIn second = false := by
  rw [Bool.eq_false_iff]
  intro inSecond
  have apart := Path.not_sameAs_of_isDirectlyIn (beq_eq_false_iff_ne.1 different) inFirst inSecond
  rw [Path.sameAs_refl] at apart
  cases apart

/-- The files planned for a directory are listed there and stale. -/
theorem of_mem_staleIn
    {classes : ClassDirectory}
    {present : List Path}
    {path : Path}
    (member : path ∈ staleIn classes present) :
    path ∈ present ∧ classes.isStale path = true :=
  List.mem_filter.1 (sortedDistinct_subset _ member)

/-- Every listed stale file is planned, perhaps in another spelling. -/
theorem exists_mem_staleIn
    {classes : ClassDirectory}
    {present : List Path}
    {path : Path}
    (listed : path ∈ present)
    (stale : classes.isStale path = true) :
    ∃ planned ∈ staleIn classes present, planned.sameAs path = true :=
  exists_mem_sortedDistinct (List.mem_filter.2 ⟨listed, stale⟩)

theorem planOfListings_cons
    (listing : ClassDirectory × List Path)
    (rest : List (ClassDirectory × List Path)) :
    planOfListings (listing :: rest) = staleIn listing.1 listing.2 ++ planOfListings rest := rfl

/-- Directories are pairwise different. -/
abbrev Apart (directories : List ClassDirectory) : Prop :=
  directories.Pairwise fun first second => first.directory.sameAs second.directory = false

/-- In a plan for different directories the files in one of them are those planned for it. -/
theorem filter_planOfListings
    {listings : List (ClassDirectory × List Path)}
    (apart : Apart (listings.map Prod.fst))
    {listing : ClassDirectory × List Path}
    (known : listing ∈ listings) :
    (planOfListings listings).filter (·.isDirectlyIn listing.1.directory) =
      staleIn listing.1 listing.2 := by
  induction listings with
  | nil => cases known
  | cons first rest ih =>
      obtain ⟨firstApart, restApart⟩ := List.pairwise_cons.1 apart
      have different {other : ClassDirectory × List Path} (member : other ∈ rest) :
          first.1.directory.sameAs other.1.directory = false :=
        firstApart other.1 (List.mem_map_of_mem member)
      rw [planOfListings_cons, List.filter_append]
      rcases List.mem_cons.1 known with rfl | later
      · have own : (staleIn listing.1 listing.2).filter
            (·.isDirectlyIn listing.1.directory) = staleIn listing.1 listing.2 :=
          List.filter_eq_self.2 fun path member =>
            isDirectlyIn_of_isStale (of_mem_staleIn member).2
        have others : (planOfListings rest).filter (·.isDirectlyIn listing.1.directory) = [] := by
          refine List.filter_eq_nil_iff.2 fun path member inside => ?_
          obtain ⟨other, inRest, planned⟩ := List.mem_flatMap.1 member
          have outside := not_isDirectlyIn_of_isDirectlyIn (different inRest) inside
          rw [isDirectlyIn_of_isStale (of_mem_staleIn planned).2] at outside
          cases outside
        rw [own, others, List.append_nil]
      · have foreign : (staleIn first.1 first.2).filter
            (·.isDirectlyIn listing.1.directory) = [] := by
          refine List.filter_eq_nil_iff.2 fun path member => ?_
          have inside := isDirectlyIn_of_isStale (of_mem_staleIn member).2
          rw [not_isDirectlyIn_of_isDirectlyIn (different later) inside]
          exact Bool.false_ne_true
        rw [foreign, ih restApart later, List.nil_append]

/-- No two planned files are the same. -/
theorem pairwise_planOfListings
    {listings : List (ClassDirectory × List Path)}
    (apart : Apart (listings.map Prod.fst)) :
    (planOfListings listings).Pairwise fun first second => first.sameAs second = false := by
  induction listings with
  | nil => exact .nil
  | cons first rest ih =>
      obtain ⟨firstApart, restApart⟩ := List.pairwise_cons.1 apart
      rw [planOfListings_cons]
      refine List.pairwise_append.2 ⟨?_, ih restApart, fun path inFirst other inRest => ?_⟩
      · exact (Path.pairwise_sortedDistinct _).imp fun before => before.2
      · obtain ⟨listing, known, planned⟩ := List.mem_flatMap.1 inRest
        have different := firstApart listing.1 (List.mem_map_of_mem known)
        exact Path.not_sameAs_of_isDirectlyIn (beq_eq_false_iff_ne.1 different)
          (isDirectlyIn_of_isStale (of_mem_staleIn inFirst).2)
          (isDirectlyIn_of_isStale (of_mem_staleIn planned).2)

/-- The path was listed for the directory, perhaps in another spelling. -/
def IsListed (answer : ClassDirectory × Except Failure (List Path)) (path : Path) : Prop :=
  ∃ present, answer.2 = .ok present ∧ ∃ listed ∈ present, listed.sameAs path = true

/-- What the plan holds, for the answers to the listings. -/
structure IsPlan
    (answers : List (ClassDirectory × Except Failure (List Path)))
    (plan : List Path) : Prop where
  planned_iff : ∀ path, (∃ planned ∈ plan, planned.sameAs path = true) ↔
    ∃ answer ∈ answers, IsListed answer path ∧ IsStaleIn answer.1 path
  /-- Planned paths are written as they were listed. -/
  listed : ∀ path ∈ plan, ∃ answer ∈ answers, ∃ present, answer.2 = .ok present ∧ path ∈ present
  /-- The part of a directory is strictly sorted. -/
  strict : ∀ answer ∈ answers,
    (plan.filter (·.isDirectlyIn answer.1.directory)).Pairwise Path.StrictlyBefore
  /-- The parts stand one after the other. -/
  parts : plan = answers.flatMap fun answer => plan.filter (·.isDirectlyIn answer.1.directory)
  distinct : plan.Pairwise fun first second => first.sameAs second = false

theorem isStaleIn_congr
    {classes : ClassDirectory}
    {first second : Path}
    (same : first.sameAs second = true) :
    IsStaleIn classes first ↔ IsStaleIn classes second := by
  rw [← isStale_iff, ← isStale_iff, isStale_congr classes same]

/-- The plan of listings for different directories. -/
theorem isPlan_planOfListings
    {listings : List (ClassDirectory × List Path)}
    (apart : Apart (listings.map Prod.fst)) :
    IsPlan (listings.map fun listing => (listing.1, .ok listing.2)) (planOfListings listings) where
  planned_iff path := by
    constructor
    · rintro ⟨planned, member, same⟩
      obtain ⟨listing, known, inPart⟩ := List.mem_flatMap.1 member
      obtain ⟨inListing, stale⟩ := of_mem_staleIn inPart
      exact ⟨_, List.mem_map_of_mem known, ⟨listing.2, rfl, planned, inListing, same⟩,
        (isStaleIn_congr same).1 (isStale_iff.1 stale)⟩
    · rintro ⟨answer, member, ⟨present, succeeded, listed, inListing, same⟩, stale⟩
      obtain ⟨listing, known, rfl⟩ := List.mem_map.1 member
      cases succeeded
      obtain ⟨planned, inPart, samePlanned⟩ :=
        exists_mem_staleIn inListing (isStale_iff.2 ((isStaleIn_congr same).2 stale))
      refine ⟨planned, List.mem_flatMap.2 ⟨listing, known, inPart⟩, ?_⟩
      rw [Path.sameAs_congr_left samePlanned, same]
  listed path member := by
    obtain ⟨listing, known, inPart⟩ := List.mem_flatMap.1 member
    exact ⟨_, List.mem_map_of_mem known, listing.2, rfl, (of_mem_staleIn inPart).1⟩
  strict answer member := by
    obtain ⟨listing, known, rfl⟩ := List.mem_map.1 member
    rw [filter_planOfListings apart known]
    exact Path.pairwise_sortedDistinct _
  parts := by
    rw [List.flatMap_map]
    calc planOfListings listings
        = (listings.map fun listing => staleIn listing.1 listing.2).flatten := List.flatMap_def
      _ = (listings.map fun listing =>
            (planOfListings listings).filter (·.isDirectlyIn listing.1.directory)).flatten :=
          congrArg List.flatten (List.map_congr_left fun _ known =>
            (filter_planOfListings apart known).symm)
      _ = _ := List.flatMap_def.symm
  distinct := pairwise_planOfListings apart

/-- What a scan of the directories comes to. -/
structure ScansExactly
    {σ : Type}
    (handler : Handler σ)
    (directories : List ClassDirectory)
    (state : σ) : Prop where
  /-- The first directory that cannot be listed is reported, and then nothing is removed. -/
  fails : (∃ answer ∈ listingAnswers handler directories state, ∃ cause, answer.2 = .error cause) →
    (∃ before classes cause after,
      listingAnswers handler directories state = before ++ (classes, .error cause) :: after ∧
      (∀ answer ∈ before, ∃ present, answer.2 = .ok present) ∧
      ((scan directories).run handler state).1 = .error ⟨classes.directory, cause⟩) ∧
    ∀ asked ∈ (cleanUp directories).requests handler state, asked.removed? = none
  /-- Otherwise there is a plan. -/
  plans : (¬ ∃ answer ∈ listingAnswers handler directories state,
      ∃ cause, answer.2 = .error cause) →
    ∃ plan, ((scan directories).run handler state).1 = .ok plan ∧
      IsPlan (listingAnswers handler directories state) plan

theorem scansExactly
    {σ : Type}
    {directories : List ClassDirectory}
    (apart : Apart directories)
    (handler : Handler σ)
    (state : σ) :
    ScansExactly handler directories state where
  fails failed := by
    obtain ⟨before, classes, cause, after, splits, listed⟩ := exists_first_error failed
    have stops : ((scan directories).run handler state).1 = .error ⟨classes.directory, cause⟩ := by
      rw [run_scan_fst, run_listAll_of_error splits listed]
      rfl
    exact ⟨⟨before, classes, cause, after, splits, listed, stops⟩,
      fun _ member => removed?_of_mem_requests_cleanUp stops member⟩
  plans listed := by
    obtain ⟨listings, answers⟩ := exists_listings listed
    have known : listings.map Prod.fst = directories := by
      rw [← map_fst_listingAnswers handler directories state, answers, List.map_map]
      rfl
    refine ⟨planOfListings listings, ?_, ?_⟩
    · rw [run_scan_fst, run_listAll_of_ok answers]
      rfl
    · rw [answers]
      exact isPlan_planOfListings (known ▸ apart)

end Generation
end QuestMod
