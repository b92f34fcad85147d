import Mathlib.Data.List.Dedup
import QuestMod.Proofs.Generation.Progress

/-!
# One bad resource does not affect the others

Two runs that place the same sources on stores with the same files and places choose the
same destinations and tell of the same renamed resources, however different the copies are
that fail. Each run accounts for every source: it is missing and named in the one failure
on missing files, or it has a destination. Each destination is in place or has one failure
of its own, and there are no other failures.
-/

namespace QuestMod
namespace Generation

open Storage (Bytes Guarded Memory Steady)

/-! ## Accounts -/

/-- The failure is the one on missing files. -/
def ResourceFailure.isMissing : ResourceFailure → Bool
  | .missing _ _ => true
  | _ => false

/-- The destinations that are not in place, each once. -/
def PlacementReport.failedDestinations (report : PlacementReport) : List Path :=
  report.destinations.values.dedup.filter fun target => !report.copied.any target.sameAs

/-- The report accounts for the sources, of which the given files are there. -/
structure AccountsForResources
    (files : Path.Map Bytes)
    (sources : List Path)
    (directory : Path)
    (report : PlacementReport) :
    Prop where
  /-- A missing source has no destination, and the one failure on missing files names it. -/
  missing : ∀ source ∈ sources, files.contains source = false →
    report.destinations.contains source = false ∧
      ∃ absent before after,
        report.failures.filter ResourceFailure.isMissing = [.missing absent directory] ∧
          source ∈ absent ∧
          (ResourceFailure.missing absent directory).message =
            before ++ missingLine directory source ++ after
  /-- Every other source has a destination. -/
  present : ∀ source ∈ sources, files.contains source = true →
    report.destinations.contains source = true
  /-- A destination is once among the copies in place, or has one failed copy. -/
  settled : ∀ target ∈ report.destinations.values,
    report.copied.countP target.sameAs +
        report.givenUp.countP (fun failure => target.sameAs failure.target) = 1
  /-- No other failures are reported. -/
  counted : report.failures.length =
    report.failedDestinations.length + if sources.all files.contains then 0 else 1

/-- A text that is joined with others stands between them. -/
theorem exists_join_eq_of_mem
    {text : String}
    {texts : List String}
    (member : text ∈ texts) :
    ∃ before after, String.join texts = before ++ text ++ after := by
  induction texts with
  | nil => cases member
  | cons first rest ih =>
      rw [String.join_cons]
      rcases List.mem_cons.1 member with rfl | later
      · exact ⟨"", String.join rest, by rw [String.empty_append]⟩
      · obtain ⟨before, after, joined⟩ := ih later
        refine ⟨first ++ before, after, ?_⟩
        rw [joined, String.append_assoc, String.append_assoc, String.append_assoc]

namespace Progress

variable
  {place : Path → Path}
  {directory : Path}
  {handled : List Path}
  {progress : Progress}
  {given : List ResourceFailure}

section

variable
  (names : NamesCopies place directory handled progress)
  (settles : Settles given progress)

include names settles

theorem Settles.mem_values_iff
    {target : Path} :
    target ∈ progress.report.destinations.values ↔
      target ∈ progress.report.copied ∨
        target ∈ progress.report.givenUp.map CopyFailure.target := by
  rw [names.mem_values_iff, ← settles.copies.mem_iff, List.mem_append]

/-- A destination is listed once, also when paths are compared by their components. -/
theorem Settles.countP_eq_one
    {target : Path}
    (member : target ∈ progress.report.destinations.values) :
    progress.report.copied.countP target.sameAs +
        progress.report.givenUp.countP (fun failure => target.sameAs failure.target) = 1 := by
  have listed := settles.copies.mem_iff.2 (names.mem_values_iff.1 member)
  have isCopy {path : Path}
      (inList : path ∈ progress.report.copied ++
        progress.report.givenUp.map CopyFailure.target) :
      IsCopyIn directory path :=
    names.isCopyIn_of_mem (settles.copies.subset inList)
  have once := List.count_eq_one_of_mem (settles.nodup names) listed
  rw [List.count, List.countP_congr (q := target.sameAs), List.countP_append, List.countP_map]
    at once
  · exact once
  · intro path inList
    rw [beq_iff_eq, eq_comm]
    exact ((isCopy listed).sameAs_iff (isCopy inList)).symm

/-- The failed copies are those of the destinations that are not in place. -/
theorem Settles.length_givenUp :
    progress.report.givenUp.length = progress.report.failedDestinations.length := by
  have nodup := settles.nodup names
  have notCopied : ∀ target ∈ progress.report.givenUp.map CopyFailure.target,
      ∀ copied ∈ progress.report.copied, target.sameAs copied = false := by
    intro target failed copied inPlace
    have isCopy {path : Path} (listed : path ∈ progress.report.destinations.values) :
        IsCopyIn directory path :=
      names.isCopyIn_of_mem (names.mem_values_iff.1 listed)
    rw [Bool.eq_false_iff]
    intro same
    have equal := ((isCopy ((settles.mem_values_iff names).2 (.inr failed))).sameAs_iff
      (isCopy ((settles.mem_values_iff names).2 (.inl inPlace)))).1 same
    exact List.disjoint_of_nodup_append nodup (equal ▸ inPlace) failed
  rw [← List.length_map CopyFailure.target]
  refine List.Perm.length_eq ((List.perm_ext_iff_of_nodup nodup.of_append_right
    ((List.nodup_dedup _).filter _)).2 fun target => ?_)
  rw [List.mem_filter, List.mem_dedup, settles.mem_values_iff names, Bool.not_eq_true',
    List.any_eq_false]
  constructor
  · intro failed
    exact ⟨.inr failed, fun copied inPlace same => by
      rw [notCopied target failed copied inPlace] at same
      cases same⟩
  · rintro ⟨inPlace | failed, absent⟩
    · exact absurd (Path.sameAs_refl target) (absent target inPlace)
    · exact failed

end

end Progress

/-- The failure on missing files, if there is one, stands in front of the failed copies. -/
theorem filter_isMissing
    {report : PlacementReport}
    {missing : List Path}
    {directory : Path}
    (failures : report.failures =
      (missingFailure? missing directory).toList ++ report.givenUp.map .notCopied) :
    report.failures.filter ResourceFailure.isMissing =
      (missingFailure? missing directory).toList := by
  have noMissing : (report.givenUp.map ResourceFailure.notCopied).filter
      ResourceFailure.isMissing = [] := by
    rw [List.filter_eq_nil_iff]
    rintro failure member isMissing
    obtain ⟨copy, _, rfl⟩ := List.mem_map.1 member
    cases isMissing
  rw [failures, List.filter_append, noMissing, List.append_nil]
  unfold missingFailure?
  split
  · rfl
  · rfl

/-- The failure on missing files names each of them. -/
theorem exists_message_eq_of_mem
    {source : Path}
    {sources : List Path}
    (member : source ∈ sources)
    (directory : Path) :
    ∃ before after, (ResourceFailure.missing sources directory).message =
      before ++ missingLine directory source ++ after := by
  obtain ⟨before, after, joined⟩ :=
    exists_join_eq_of_mem (List.mem_map_of_mem (f := missingLine directory) member)
  have behind (front : String) :
      front ++ (before ++ missingLine directory source ++ after) =
        front ++ before ++ missingLine directory source ++ after := by
    rw [String.append_assoc, String.append_assoc, String.append_assoc]
  exact ⟨_, after, (congrArg (_ ++ ·) joined).trans (behind _)⟩

/-- There is one failure on missing files, or none when all are there. -/
theorem length_missingFailure?
    (files : Path.Map Bytes)
    (sources : List Path)
    (directory : Path) :
    (missingFailure? (sources.filter fun source => !files.contains source)
        directory).toList.length =
      if sources.all files.contains then 0 else 1 := by
  have allThere : (sources.filter fun source => !files.contains source).isEmpty =
      sources.all files.contains := by
    rw [Bool.eq_iff_iff, List.isEmpty_iff, List.filter_eq_nil_iff, List.all_eq_true]
    exact forall₂_congr fun source _ => by rw [Bool.not_eq_true', Bool.not_eq_false]
  rw [missingFailure?, allThere]
  split
  · rfl
  · rfl

/-- The report of a run accounts for its sources. -/
theorem accountsForResources_placeResources
    {σ : Type}
    (store : Steady σ)
    (state : σ)
    (sources : List Path)
    (directory : Path)
    (policy : RetryPolicy) :
    AccountsForResources (store.files state) sources directory
      ((placeResources sources directory policy).run store.handler state).1 := by
  obtain ⟨last, steps, report⟩ :=
    Progress.exists_steps_placeResources store sources directory policy state
  have names := (Progress.namesCopies_start _ rfl).steps store.place_congr steps
  have settles := (Progress.settles_start _ _).steps steps
  rw [report]
  constructor
  · intro source declared absent
    refine ⟨?_, ?_⟩
    · rw [names.contains_destinations store.place_congr, List.nil_append, List.any_eq_false]
      intro other member same
      have present := (List.mem_filter.1 member).2
      rw [Path.Map.contains_congr _ same, absent] at present
      cases present
    · have isMissing : source ∈ sources.filter fun source => !(store.files state).contains source :=
        List.mem_filter.2 ⟨declared, by rw [absent]; rfl⟩
      obtain ⟨before, after, named⟩ := exists_message_eq_of_mem isMissing directory
      refine ⟨_, before, after, ?_, isMissing, named⟩
      rw [filter_isMissing settles.failures, missingFailure?,
        List.isEmpty_eq_false_iff_exists_mem.2 ⟨source, isMissing⟩, if_neg Bool.false_ne_true]
      rfl
  · intro source declared present
    rw [names.contains_destinations store.place_congr, List.nil_append, List.any_eq_true]
    exact ⟨source, List.mem_filter.2 ⟨declared, present⟩, Path.sameAs_refl source⟩
  · intro target member
    exact settles.countP_eq_one names member
  · rw [settles.failures, List.length_append, List.length_map, settles.length_givenUp names,
      Nat.add_comm, length_missingFailure?]

/-- Two runs on the same files choose the same destinations and tell of the same renamed
resources, whichever reads and copies fail in each of them, and each accounts for all of its
resources. -/
theorem failing_resource_leaves_others_alone
    {σ τ : Type}
    (first : Steady σ)
    (second : Steady τ)
    (state : σ)
    (other : τ)
    (sameFiles : first.files state = second.files other)
    (samePlaces : first.place = second.place)
    (sources : List Path)
    (directory : Path)
    (policy : RetryPolicy) :
    ((placeResources sources directory policy).run first.handler state).1.destinations =
        ((placeResources sources directory policy).run second.handler other).1.destinations ∧
      ((placeResources sources directory policy).run first.handler state).1.renamed =
        ((placeResources sources directory policy).run second.handler other).1.renamed ∧
      AccountsForResources (first.files state) sources directory
        ((placeResources sources directory policy).run first.handler state).1 ∧
      AccountsForResources (first.files state) sources directory
        ((placeResources sources directory policy).run second.handler other).1 := by
  obtain ⟨last, steps, report⟩ :=
    Progress.exists_steps_placeResources first sources directory policy state
  obtain ⟨otherLast, otherSteps, otherReport⟩ :=
    Progress.exists_steps_placeResources second sources directory policy other
  rw [← sameFiles, ← samePlaces] at otherSteps
  have same := Progress.SameNames.steps ⟨rfl, rfl, rfl⟩ steps otherSteps
  refine ⟨?_, ?_, accountsForResources_placeResources first state sources directory policy, ?_⟩
  · rw [report, otherReport]
    exact same.destinations
  · rw [report, otherReport]
    exact same.renamed
  · rw [sameFiles]
    exact accountsForResources_placeResources second other sources directory policy

/-- A store with two of three resources, one of whose copies is locked. -/
def lockedHarbor : Memory where
  files := ⟨[(⟨"art/Bell.png"⟩, [1]), (⟨"bell.png"⟩, [2])]⟩
  lockedCopies := ⟨[(⟨"out/Bell.png"⟩, 9)]⟩

/-- The same files behind a fault on the other copy. -/
def faultyHarbor : { guarded : Guarded Memory // guarded.IsSteady .empty } where
  val :=
    { faults := [⟨.copy, ⟨"out/bell_1.png"⟩, ⟨.other, "disk full"⟩, none⟩]
      store := { files := lockedHarbor.files } }
  property := ⟨rfl, by decide⟩

/-- Two resources with similar names and a missing one. -/
def harborResources : List Path :=
  [⟨"art/Bell.png"⟩, ⟨"bell.png"⟩, ⟨"lost.png"⟩]

/-- The report on the resources of the harbor. -/
def harborReport {σ : Type} (store : Steady σ) (state : σ) : PlacementReport :=
  ((placeResources harborResources ⟨"out"⟩ {}).run store.handler state).1

/-- Different copies fail in the two stores, and the destinations are the same. -/
theorem harborReports_share_destinations :
    Memory.steady.files lockedHarbor =
        (Guarded.steady Memory.steady .empty).files faultyHarbor ∧
      Memory.steady.place = (Guarded.steady Memory.steady .empty).place ∧
      (harborReport Memory.steady lockedHarbor).copied = [⟨"out/bell_1.png"⟩] ∧
      (harborReport (Guarded.steady Memory.steady .empty) faultyHarbor).copied =
        [⟨"out/Bell.png"⟩] ∧
      (harborReport Memory.steady lockedHarbor).destinations =
        (harborReport (Guarded.steady Memory.steady .empty) faultyHarbor).destinations ∧
      AccountsForResources lockedHarbor.files harborResources ⟨"out"⟩
        (harborReport Memory.steady lockedHarbor) ∧
      AccountsForResources lockedHarbor.files harborResources ⟨"out"⟩
        (harborReport (Guarded.steady Memory.steady .empty) faultyHarbor) := by
  obtain ⟨destinations, _, account, otherAccount⟩ :=
    failing_resource_leaves_others_alone Memory.steady (Guarded.steady Memory.steady .empty)
      lockedHarbor faultyHarbor rfl rfl harborResources ⟨"out"⟩ {}
  refine ⟨rfl, rfl, ?_, ?_, destinations, account, otherAccount⟩
  · decide +kernel
  · decide +kernel

end Generation
end QuestMod
