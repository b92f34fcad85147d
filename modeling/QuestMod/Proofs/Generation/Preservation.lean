import QuestMod.Proofs.Generation.Placement

/-!
# When copying keeps the declared files

Copies are made one after the other while sources are still to be read. A source that
lies where another source's copy goes is overwritten before its own turn, unless both
hold the same bytes or the path is locked for all tries. This is the only way in which a
declared file or its copy is lost.
-/

namespace QuestMod
namespace Generation

open Storage (Memory)

/-- Every source that is a file has the same bytes in a later memory. -/
def SourcesKept
    (sources : List Path)
    (before after : Memory) : Prop :=
  ∀ source ∈ sources, ∀ contents,
    before.files.find? source = some contents → after.files.find? source = some contents

/-- No copy was given up. -/
def AllCopied (report : PlacementReport) : Prop :=
  ∀ failure, .notCopied failure ∉ report.failures

/-- Every source that is a file has a destination with the bytes that it had before. -/
def SourcesCopied
    (sources : List Path)
    (before : Memory)
    (report : PlacementReport)
    (after : Memory) : Prop :=
  ∀ source ∈ sources, ∀ contents, before.files.find? source = some contents →
    ∃ target, report.destinations.find? source = some target ∧
      after.files.find? target = some contents

/-- Whenever the destination of one source is another source, both hold the same bytes, or
the other one is no file, or it is locked for all tries. -/
def SourcesOutOfTheWay
    (sources : List Path)
    (policy : RetryPolicy)
    (before : Memory)
    (report : PlacementReport) : Prop :=
  ∀ first ∈ sources, ∀ second ∈ sources, ∀ target,
    report.destinations.find? first = some target → target.sameAs second = true →
      before.files.find? first = before.files.find? second ∨
        before.files.find? second = none ∨
        tries policy ≤ before.locks target

section

variable
  {sources : List Path}
  {directory : Path}
  {policy : RetryPolicy}
  {memory : Memory}

/-! ## Destinations -/

/-- The destination of a path is the copy of the source with its components. -/
theorem find?_destinations (path : Path) :
    ((placeResources sources directory policy).run Memory.handler memory).1.destinations.find?
        path =
      if (presentSources memory sources).any (fun source => source.sameAs path) then
        copyIn? (declaredCopies directory memory sources) path
      else none := by
  rw [(run_placeResources sources directory policy memory).2.destinations, find?_destinationsOf]
  rfl

theorem find?_destinations_of_mem
    (policy : RetryPolicy)
    {source : Path}
    (present : source ∈ presentSources memory sources) :
    ((placeResources sources directory policy).run Memory.handler memory).1.destinations.find?
        source =
      copyIn? (declaredCopies directory memory sources) source := by
  have known : (presentSources memory sources).any (fun other => other.sameAs source) = true :=
    List.any_eq_true.2 ⟨source, present, Path.sameAs_refl source⟩
  rw [find?_destinations, if_pos known]

theorem exists_copy_of_find?_destinations
    {path target : Path}
    (found : ((placeResources sources directory policy).run
      Memory.handler memory).1.destinations.find? path = some target) :
    ∃ source, (source, target) ∈ declaredCopies directory memory sources ∧
      source.sameAs path = true := by
  rw [find?_destinations] at found
  split at found
  · exact exists_mem_of_copyIn? found
  · cases found

/-! ## Keeping the sources -/

/-- Only sources that are out of the way are kept. -/
theorem sourcesOutOfTheWay_of_sourcesKept
    (kept : SourcesKept sources memory
      ((placeResources sources directory policy).run Memory.handler memory).2) :
    SourcesOutOfTheWay sources policy memory
      ((placeResources sources directory policy).run Memory.handler memory).1 := by
  intro first firstDeclared second secondDeclared target found same
  obtain ⟨source, member, sameSource⟩ := exists_copy_of_find?_destinations found
  obtain ⟨sourceDeclared, contents, held⟩ :=
    mem_presentSources_iff.1 (mem_presentSources_of_mem_declaredCopies member).1
  rw [← memory.files.find?_congr sameSource, held]
  cases secondHeld : memory.files.find? second with
  | none => exact .inr (.inl rfl)
  | some bytes =>
      by_cases locked : tries policy ≤ memory.locks target
      · exact .inr (.inr locked)
      have sourceLast := kept source sourceDeclared contents held
      have secondLast := kept second secondDeclared bytes secondHeld
      rw [(run_placeResources sources directory policy memory).1] at sourceLast secondLast
      rw [← Path.Map.find?_congr _ same] at secondLast
      obtain ⟨front, back, split⟩ := List.append_of_mem member
      have distinct : (declaredCopies directory memory sources).Pairwise _ :=
        pairwise_declaredCopies
      rw [split] at sourceLast secondLast distinct
      rw [find?_target_bringAll distinct held sourceLast (Nat.lt_of_not_le locked)] at secondLast
      exact .inl secondLast

/-- Without a copy that was given up all copies succeeded. -/
theorem failure?_eq_none_of_allCopied
    (allCopied : AllCopied
      ((placeResources sources directory policy).run Memory.handler memory).1) :
    ∀ outcome ∈ (bringAll policy (declaredCopies directory memory sources) memory).1,
      outcome.failure? = none := by
  intro outcome member
  cases failed : outcome.failure? with
  | none => rfl
  | some failure =>
      have reported := (run_placeResources sources directory policy memory).2.failures
      refine absurd ?_ (allCopied failure)
      rw [reported]
      refine List.mem_append_right _ (List.mem_map_of_mem ?_)
      exact List.mem_filterMap.2 ⟨outcome, member, failed⟩

/-- Copies disturb no source that is out of the way. -/
theorem undisturbed_of_sourcesOutOfTheWay
    (outOfTheWay : SourcesOutOfTheWay sources policy memory
      ((placeResources sources directory policy).run Memory.handler memory).1) :
    Undisturbed policy memory (presentSources memory sources) memory
      (declaredCopies directory memory sources) := by
  refine .declared ?_
  rintro ⟨source, target⟩ member other otherPresent same
  have present := (mem_presentSources_of_mem_declaredCopies member).1
  obtain ⟨otherDeclared, bytes, otherHeld⟩ := mem_presentSources_iff.1 otherPresent
  have found := (copyIn?_of_mem_assignedCopies directory member).2
  have destination := (find?_destinations_of_mem policy present).trans found
  rcases outOfTheWay source (mem_presentSources_iff.1 present).1 other otherDeclared target
    destination same with equal | absent | locked
  · exact .inl equal
  · rw [otherHeld] at absent
    cases absent
  · exact .inr locked

end

/-- The declared files are kept, and copied unless a copy is given up, exactly when no
destination of one source is another source that holds other bytes and can be copied
to. -/
theorem placeResources_keeps_and_copies_iff
    (sources : List Path)
    (directory : Path)
    (policy : RetryPolicy)
    (memory : Memory) :
    let answer := (placeResources sources directory policy).run Memory.handler memory
    (SourcesKept sources memory answer.2 ∧
        (AllCopied answer.1 → SourcesCopied sources memory answer.1 answer.2)) ↔
      SourcesOutOfTheWay sources policy memory answer.1 := by
  intro answer
  constructor
  · rintro ⟨kept, _⟩
    exact sourcesOutOfTheWay_of_sourcesKept kept
  · intro outOfTheWay
    have undisturbed := undisturbed_of_sourcesOutOfTheWay outOfTheWay
    have last := (run_placeResources sources directory policy memory).1
    constructor
    · intro source declared contents held
      have present := mem_presentSources_iff.2 ⟨declared, contents, held⟩
      rw [last, undisturbed.find?_source source present, held]
    · intro allCopied source declared contents held
      have present := mem_presentSources_iff.2 ⟨declared, contents, held⟩
      obtain ⟨target, found⟩ := Option.isSome_iff_exists.1 (isSome_copy_of_mem directory present {})
      obtain ⟨first, member, same⟩ := exists_mem_of_copyIn? found
      refine ⟨target, (find?_destinations_of_mem policy present).trans found, ?_⟩
      rw [last, undisturbed.find?_copy (failure?_eq_none_of_allCopied allCopied) _ member,
        memory.files.find?_congr same, held]

/-- Two files of the same name, the second one in the resource directory already. -/
def overlappingFiles : Memory where
  files := ⟨[(⟨"a/x.png"⟩, [65]), (⟨"res/x.png"⟩, [66])]⟩

/-- The second file is overwritten before its own turn. -/
theorem overlappingFiles_not_kept :
    ¬ SourcesKept [⟨"a/x.png"⟩, ⟨"res/x.png"⟩] overlappingFiles
      ((placeResources [⟨"a/x.png"⟩, ⟨"res/x.png"⟩] ⟨"res"⟩ {}).run
        Memory.handler overlappingFiles).2 := by
  intro kept
  have overwritten :
      ((placeResources [⟨"a/x.png"⟩, ⟨"res/x.png"⟩] ⟨"res"⟩ {}).run
        Memory.handler overlappingFiles).2.files.find? ⟨"res/x.png"⟩ = some [65] := by
    decide +kernel
  have expected := kept ⟨"res/x.png"⟩ (by simp) [66] (by decide +kernel)
  rw [overwritten] at expected
  cases expected

end Generation
end QuestMod
