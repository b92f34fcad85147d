import QuestMod.Proofs.Generation.Assignment
import QuestMod.Proofs.Generation.Copying
import QuestMod.Proofs.Storage.Steady

/-!
# Placing resources in memory

On files in memory the placement of resources comes down to the copies that the present
sources were assigned, brought one after the other.
-/

namespace QuestMod
namespace Generation

open Storage (Bytes Memory Program Steady)
open Storage.Memory (AgreeAt)

/-! ## A list of copies -/

/-- Brings each source to its copy, one after the other. -/
def bringAll (policy : RetryPolicy) :
    List (Path × Path) → Memory → List CopyOutcome × Memory
  | [], memory => ([], memory)
  | (source, target) :: copies, memory =>
      let first := (bring source source target policy).run Memory.handler memory
      let others := bringAll policy copies first.2
      (first.1 :: others.1, others.2)

/-- Copies leave every other path alone. -/
theorem agreeAt_bringAll
    (policy : RetryPolicy)
    {copies : List (Path × Path)}
    {path : Path}
    (apart : ∀ copy ∈ copies, copy.2.sameAs path = false)
    (memory : Memory) :
    AgreeAt path (bringAll policy copies memory).2 memory := by
  induction copies generalizing memory with
  | nil => exact .refl path memory
  | cons copy rest ih =>
      obtain ⟨source, target⟩ := copy
      obtain ⟨targetApart, othersApart⟩ := List.forall_mem_cons.1 apart
      exact (ih othersApart _).trans (agreeAt_bring policy source targetApart memory)

/-- Some copies, then the others. -/
theorem bringAll_append
    (policy : RetryPolicy)
    (first second : List (Path × Path))
    (memory : Memory) :
    bringAll policy (first ++ second) memory =
      ((bringAll policy first memory).1 ++
          (bringAll policy second (bringAll policy first memory).2).1,
        (bringAll policy second (bringAll policy first memory).2).2) := by
  induction first generalizing memory with
  | nil => rfl
  | cons copy rest ih =>
      rw [List.cons_append, bringAll, ih]
      rfl

/-! ## Copies that disturb no source

The copies still to be made are undisturbed when every source has its first bytes and no
copy lies on a source that it could overwrite with other bytes. Each copy that is made
keeps the others undisturbed. -/

/-- The sources hold what they held before, and the copies neither meet nor lie on a
source, unless it holds the same bytes or is locked for all tries. -/
structure Undisturbed
    (policy : RetryPolicy)
    (before : Memory)
    (kept : List Path)
    (memory : Memory)
    (copies : List (Path × Path)) : Prop where
  distinct : copies.Pairwise fun first second => first.2.sameAs second.2 = false
  present : ∀ copy ∈ copies,
    copy.1 ∈ kept ∧ ∃ contents, before.files.find? copy.1 = some contents
  outOfTheWay : ∀ copy ∈ copies, ∀ source ∈ kept, copy.2.sameAs source = true →
    before.files.find? copy.1 = before.files.find? source ∨ tries policy ≤ before.locks copy.2
  unchanged : ∀ source ∈ kept, memory.files.find? source = before.files.find? source
  sameLocks : ∀ copy ∈ copies, memory.locks copy.2 = before.locks copy.2

section

variable {policy : RetryPolicy} {before memory : Memory} {kept : List Path}

theorem Undisturbed.exists_contents
    {source target : Path}
    {copies : List (Path × Path)}
    (undisturbed : Undisturbed policy before kept memory ((source, target) :: copies)) :
    ∃ contents, memory.files.find? source = some contents ∧
      before.files.find? source = some contents := by
  obtain ⟨isKept, contents, held⟩ := undisturbed.present (source, target) List.mem_cons_self
  exact ⟨contents, (undisturbed.unchanged source isKept).trans held, held⟩

/-- Making the first copy leaves the others undisturbed. -/
theorem Undisturbed.step
    {source target : Path}
    {copies : List (Path × Path)}
    (undisturbed : Undisturbed policy before kept memory ((source, target) :: copies)) :
    Undisturbed policy before kept
      ((bring source source target policy).run Memory.handler memory).2 copies where
  distinct := (List.pairwise_cons.1 undisturbed.distinct).2
  present := (List.forall_mem_cons.1 undisturbed.present).2
  outOfTheWay := (List.forall_mem_cons.1 undisturbed.outOfTheWay).2
  unchanged := by
    intro other otherKept
    obtain ⟨contents, held, heldBefore⟩ := undisturbed.exists_contents
    rw [← undisturbed.unchanged other otherKept]
    refine find?_bring held fun same => ?_
    rw [undisturbed.unchanged other otherKept,
      (List.forall_mem_cons.1 undisturbed.sameLocks).1, ← heldBefore, eq_comm]
    exact undisturbed.outOfTheWay _ List.mem_cons_self other otherKept same
  sameLocks := by
    intro copy member
    have apart := (List.pairwise_cons.1 undisturbed.distinct).1 copy member
    rw [(agreeAt_bring policy source apart memory).locks]
    exact undisturbed.sameLocks copy (List.mem_cons_of_mem _ member)

/-- Undisturbed copies keep the sources. -/
theorem Undisturbed.find?_source
    {copies : List (Path × Path)}
    (undisturbed : Undisturbed policy before kept memory copies) :
    ∀ source ∈ kept,
      (bringAll policy copies memory).2.files.find? source = before.files.find? source := by
  induction copies generalizing memory with
  | nil => exact undisturbed.unchanged
  | cons copy rest ih => exact ih undisturbed.step

/-- Undisturbed copies end with the first bytes of their sources, unless one is given
up. -/
theorem Undisturbed.find?_copy
    {copies : List (Path × Path)}
    (undisturbed : Undisturbed policy before kept memory copies)
    (succeeded : ∀ outcome ∈ (bringAll policy copies memory).1, outcome.failure? = none) :
    ∀ copy ∈ copies,
      (bringAll policy copies memory).2.files.find? copy.2 = before.files.find? copy.1 := by
  induction copies generalizing memory with
  | nil => exact List.forall_mem_nil _
  | cons copy rest ih =>
      obtain ⟨source, target⟩ := copy
      obtain ⟨first, others⟩ := List.forall_mem_cons.1 succeeded
      refine List.forall_mem_cons.2 ⟨?_, ih undisturbed.step others⟩
      obtain ⟨contents, held, heldBefore⟩ := undisturbed.exists_contents
      have apart : ∀ copy ∈ rest, copy.2.sameAs target = false := by
        intro copy member
        rw [Path.sameAs_comm]
        exact (List.pairwise_cons.1 undisturbed.distinct).1 copy member
      rw [bringAll]
      dsimp only
      rw [(agreeAt_bringAll policy apart _).file, find?_target_bring held first, heldBefore]

/-- Undisturbed copies that are locked for fewer tries are not given up. -/
theorem Undisturbed.failure?_eq_none
    {copies : List (Path × Path)}
    (undisturbed : Undisturbed policy before kept memory copies)
    (unlocked : ∀ copy ∈ copies, before.locks copy.2 < tries policy) :
    ∀ outcome ∈ (bringAll policy copies memory).1, outcome.failure? = none := by
  induction copies generalizing memory with
  | nil => exact List.forall_mem_nil _
  | cons copy rest ih =>
      obtain ⟨source, target⟩ := copy
      obtain ⟨first, others⟩ := List.forall_mem_cons.1 unlocked
      obtain ⟨contents, held, _⟩ := undisturbed.exists_contents
      refine List.forall_mem_cons.2 ⟨failure?_bring held ?_, ih undisturbed.step others⟩
      rw [(List.forall_mem_cons.1 undisturbed.sameLocks).1]
      exact first

end

/-! ## A copy on a source -/

section

variable
  {policy : RetryPolicy}
  {memory : Memory}
  {front back : List (Path × Path)}
  {source target : Path}
  (distinct : (front ++ (source, target) :: back).Pairwise
    fun first second => first.2.sameAs second.2 = false)
  {contents : Bytes}
  (held : memory.files.find? source = some contents)
  (kept : (bringAll policy (front ++ (source, target) :: back) memory).2.files.find? source =
    some contents)

include distinct held kept

/-- A source that keeps its bytes in the end has them at its own turn: it is overwritten by
one copy at most, and that one does not lie on both sides of its turn. -/
theorem find?_source_bringAll_front
    (elsewhere : target.sameAs source = false) :
    (bringAll policy front memory).2.files.find? source = some contents := by
  rw [List.pairwise_append] at distinct
  rw [bringAll_append, bringAll] at kept
  dsimp only at kept
  by_cases overwritten : ∃ copy ∈ back, copy.2.sameAs source = true
  · obtain ⟨copy, inBack, same⟩ := overwritten
    have apart : ∀ other ∈ front, other.2.sameAs source = false := by
      intro other inFront
      rw [← Path.sameAs_congr_right same]
      exact distinct.2.2 other inFront copy (List.mem_cons_of_mem _ inBack)
    rw [(agreeAt_bringAll policy apart memory).file, held]
  · have apart : ∀ copy ∈ back, copy.2.sameAs source = false := by
      intro copy inBack
      rw [Bool.eq_false_iff]
      intro same
      exact overwritten ⟨copy, inBack, same⟩
    rw [(agreeAt_bringAll policy apart _).file,
      (agreeAt_bring policy source elsewhere _).file] at kept
    exact kept

/-- A copy that is not locked ends with the bytes of its source, if the source has them in
the end. -/
theorem find?_target_bringAll
    (unlocked : memory.locks target < tries policy) :
    (bringAll policy (front ++ (source, target) :: back) memory).2.files.find? target =
      some contents := by
  cases inPlace : target.sameAs source with
  | true =>
      rw [Path.Map.find?_congr _ inPlace]
      exact kept
  | false =>
      have heldThere := find?_source_bringAll_front distinct held kept inPlace
      rw [List.pairwise_append, List.pairwise_cons] at distinct
      obtain ⟨_, ⟨apartBack, _⟩, apartFront⟩ := distinct
      have targetFront : AgreeAt target (bringAll policy front memory).2 memory :=
        agreeAt_bringAll policy
          (fun copy inFront => apartFront copy inFront _ List.mem_cons_self) memory
      have backApart : ∀ copy ∈ back, copy.2.sameAs target = false := by
        intro copy inBack
        rw [Path.sameAs_comm]
        exact apartBack copy inBack
      rw [bringAll_append, bringAll]
      dsimp only
      rw [(agreeAt_bringAll policy backApart _).file]
      rw [← targetFront.locks] at unlocked
      exact find?_target_bring heldThere (failure?_bring heldThere unlocked)

end

/-! ## The report -/

/-- The report tells of the copies, of what became of them and of the destinations. -/
structure Reports
    (start : PlacementReport)
    (copies : List (Path × Path))
    (outcomes : List CopyOutcome)
    (destinations : Path.Map Path)
    (report : PlacementReport) : Prop where
  destinations : report.destinations = destinations
  failures :
    report.failures =
      start.failures ++ (outcomes.filterMap CopyOutcome.failure?).map .notCopied
  copied :
    (∀ outcome ∈ outcomes, outcome.failure? = none) →
      report.copied = start.copied ++ copies.map Prod.snd

section

variable (report : PlacementReport) (target : Path) (outcome : CopyOutcome)

@[simp] theorem destinations_record :
    (report.record target outcome).destinations = report.destinations := by
  cases outcome <;> rfl

theorem failures_record :
    (report.record target outcome).failures =
      report.failures ++ outcome.failure?.toList.map .notCopied := by
  cases outcome with
  | failed failure => rfl
  | _ => exact (List.append_nil _).symm

theorem copied_record :
    (report.record target outcome).copied =
      report.copied ++ if outcome.failure? = none then [target] else [] := by
  cases outcome with
  | failed failure => exact (List.append_nil _).symm
  | _ => rfl

end

/-- A copy in front of reported copies. -/
theorem Reports.cons
    {start between report : PlacementReport}
    {source target : Path}
    {copies : List (Path × Path)}
    {outcome : CopyOutcome}
    {outcomes : List CopyOutcome}
    {destinations : Path.Map Path}
    (reports : Reports (between.record target outcome) copies outcomes destinations report)
    (failuresKept : between.failures = start.failures)
    (copiedKept : between.copied = start.copied) :
    Reports start ((source, target) :: copies) (outcome :: outcomes) destinations report where
  destinations := reports.destinations
  failures := by
    rw [reports.failures, failures_record, failuresKept, List.append_assoc, ← List.map_append]
    cases failed : outcome.failure? with
    | none => rw [List.filterMap_cons_none failed, Option.toList_none, List.nil_append]
    | some failure =>
        rw [List.filterMap_cons_some failed, Option.toList_some, List.singleton_append]
  copied := by
    intro succeeded
    obtain ⟨first, others⟩ := List.forall_mem_cons.1 succeeded
    rw [reports.copied others, copied_record, if_pos first, copiedKept, List.append_assoc]
    rfl

/-! ## Sources that are there -/

/-- Placing sources brings their copies one after the other. -/
theorem run_placeSources
    (directory : Path)
    (policy : RetryPolicy)
    (sources : List Path)
    (placement : Placement)
    (report : PlacementReport)
    (memory : Memory) :
    ((placeSources directory policy sources placement report).run Memory.handler memory).2 =
        (bringAll policy (assignedCopies directory sources placement) memory).2 ∧
      Reports report (assignedCopies directory sources placement)
        (bringAll policy (assignedCopies directory sources placement) memory).1
        (destinationsOf directory sources placement report.destinations)
        ((placeSources directory policy sources placement report).run Memory.handler memory).1 := by
  induction sources generalizing placement report memory with
  | nil =>
      refine ⟨rfl, rfl, (List.append_nil _).symm, fun _ => (List.append_nil _).symm⟩
  | cons source rest ih =>
      rw [placeSources, Program.run_bind, Memory.run_canonical]
      unfold assignedCopies destinationsOf
      cases placement.copyOf? source with
      | some target =>
          obtain ⟨last, reports⟩ := ih placement
            { report with destinations := report.destinations.insert source target } memory
          exact ⟨last, reports.destinations, reports.failures, reports.copied⟩
      | none =>
          dsimp only
          rw [Program.run_bind, bringAll]
          obtain ⟨last, reports⟩ := ih (placement.extend directory source) _ _
          rw [destinations_record] at reports
          exact ⟨last, reports.cons rfl rfl⟩

theorem mem_copied_record
    {report : PlacementReport}
    {target other : Path}
    {outcome : CopyOutcome}
    (member : other ∈ (report.record target outcome).copied) :
    other ∈ report.copied ∨ other = target := by
  cases outcome with
  | failed failure => exact .inl member
  | _ => exact (List.mem_append.1 member).imp_right List.mem_singleton.1

/-- Only assigned copies are reported as copied, whether or not others are given up. -/
theorem mem_copied_placeSources
    (directory : Path)
    (policy : RetryPolicy)
    {sources : List Path}
    {placement : Placement}
    {report : PlacementReport}
    {memory : Memory}
    {target : Path}
    (member : target ∈ ((placeSources directory policy sources placement report).run
      Memory.handler memory).1.copied) :
    target ∈ report.copied ∨
      ∃ source, (source, target) ∈ assignedCopies directory sources placement := by
  induction sources generalizing placement report memory with
  | nil => exact .inl member
  | cons source rest ih =>
      rw [placeSources, Program.run_bind, Memory.run_canonical] at member
      unfold assignedCopies
      dsimp only at member
      cases placed : placement.copyOf? source with
      | some copy =>
          rw [placed] at member
          dsimp only at member
          have found := ih member
          exact found
      | none =>
          rw [placed] at member
          dsimp only at member ⊢
          rw [Program.run_bind] at member
          rcases ih member with recorded | ⟨other, later⟩
          · rcases mem_copied_record recorded with earlier | rfl
            · exact .inl earlier
            · exact .inr ⟨source, List.mem_cons_self⟩
          · exact .inr ⟨other, List.mem_cons_of_mem _ later⟩

/-- The sources that are not there are found. -/
theorem run_missingFiles_of_steady
    {σ : Type}
    (store : Steady σ)
    (sources : List Path)
    (state : σ) :
    (missingFiles sources).run store.handler state =
      (sources.filter fun source => !(store.files state).contains source, state) := by
  induction sources with
  | nil => rfl
  | cons source rest ih =>
      rw [missingFiles, Program.run_bind, Program.isFile, Program.run_ask, store.isFile,
        Program.run_bind, ih, List.filter_cons]
      cases (store.files state).contains source <;> rfl

theorem run_missingFiles
    (sources : List Path)
    (memory : Memory) :
    (missingFiles sources).run Memory.handler memory =
      (sources.filter fun source => !memory.files.contains source, memory) :=
  run_missingFiles_of_steady Memory.steady sources memory

/-- The sources that are there. -/
def presentSources (memory : Memory) (sources : List Path) : List Path :=
  sources.filter memory.files.contains

theorem filter_not_missing
    (sources : List Path)
    (memory : Memory) :
    (sources.filter fun source =>
        !(sources.filter fun source => !memory.files.contains source).any source.sameAs) =
      presentSources memory sources := by
  refine List.filter_congr fun source member => ?_
  cases present : memory.files.contains source with
  | true =>
      rw [Bool.not_eq_true', List.any_eq_false]
      intro other missing same
      have absent := (List.mem_filter.1 missing).2
      rw [Path.Map.contains_eq_isSome, ← memory.files.find?_congr same,
        ← Path.Map.contains_eq_isSome, present] at absent
      cases absent
  | false =>
      rw [Bool.not_eq_false', List.any_eq_true]
      refine ⟨source, List.mem_filter.2 ⟨member, ?_⟩, Path.sameAs_refl source⟩
      rw [present]
      rfl

/-- Every declared file that is there, with its copy. -/
def declaredCopies (directory : Path) (memory : Memory) (sources : List Path) :
    List (Path × Path) :=
  assignedCopies directory (presentSources memory sources) {}

section

variable {sources : List Path} {directory : Path} {memory : Memory}

theorem mem_presentSources_iff {source : Path} :
    source ∈ presentSources memory sources ↔
      source ∈ sources ∧ ∃ contents, memory.files.find? source = some contents := by
  rw [presentSources, List.mem_filter, Path.Map.contains_eq_isSome, Option.isSome_iff_exists]

theorem pairwise_declaredCopies :
    (declaredCopies directory memory sources).Pairwise
      fun first second => first.2.sameAs second.2 = false :=
  pairwise_assignedCopies directory _ _

theorem mem_presentSources_of_mem_declaredCopies
    {copy : Path × Path}
    (member : copy ∈ declaredCopies directory memory sources) :
    copy.1 ∈ presentSources memory sources ∧
      ∃ contents, memory.files.find? copy.1 = some contents := by
  have present := source_mem_of_mem_assignedCopies directory member
  exact ⟨present, (mem_presentSources_iff.1 present).2⟩

end

/-- The copies of declared files are undisturbed when they lie on no source. -/
theorem Undisturbed.declared
    {sources : List Path}
    {directory : Path}
    {policy : RetryPolicy}
    {memory : Memory}
    (outOfTheWay : ∀ copy ∈ declaredCopies directory memory sources,
      ∀ source ∈ presentSources memory sources, copy.2.sameAs source = true →
        memory.files.find? copy.1 = memory.files.find? source ∨
          tries policy ≤ memory.locks copy.2) :
    Undisturbed policy memory (presentSources memory sources) memory
      (declaredCopies directory memory sources) where
  distinct := pairwise_declaredCopies
  present _ member := mem_presentSources_of_mem_declaredCopies member
  outOfTheWay := outOfTheWay
  unchanged _ _ := rfl
  sameLocks _ _ := rfl

/-- Placing resources brings the copies of the sources that are there. -/
theorem run_placeResources
    (sources : List Path)
    (directory : Path)
    (policy : RetryPolicy)
    (memory : Memory) :
    ((placeResources sources directory policy).run Memory.handler memory).2 =
        (bringAll policy (declaredCopies directory memory sources) memory).2 ∧
      Reports
        { failures := (missingFailure? (sources.filter fun source =>
            !memory.files.contains source) directory).toList }
        (declaredCopies directory memory sources)
        (bringAll policy (declaredCopies directory memory sources) memory).1
        (destinationsOf directory (presentSources memory sources) {} .empty)
        ((placeResources sources directory policy).run Memory.handler memory).1 := by
  unfold placeResources
  split
  · rename_i empty
    cases List.isEmpty_iff.1 empty
    exact ⟨rfl, rfl, rfl, fun _ => rfl⟩
  · rw [Program.run_bind, run_missingFiles, Program.run_bind, Memory.run_createDirectories]
    dsimp only
    rw [filter_not_missing]
    exact run_placeSources _ _ _ _ _ _

/-- What is reported as copied is the copy of a declared file that is there. -/
theorem mem_copied_placeResources
    {sources : List Path}
    {directory : Path}
    {policy : RetryPolicy}
    {memory : Memory}
    {target : Path}
    (member : target ∈ ((placeResources sources directory policy).run
      Memory.handler memory).1.copied) :
    ∃ source, (source, target) ∈ declaredCopies directory memory sources := by
  unfold placeResources at member
  split at member
  · cases member
  · rw [Program.run_bind, run_missingFiles, Program.run_bind, Memory.run_createDirectories]
      at member
    dsimp only at member
    rw [filter_not_missing] at member
    exact (mem_copied_placeSources directory policy member).resolve_left List.not_mem_nil

/-! ## Copies that are there already -/

theorem quiet_missingFiles
    (sources : List Path)
    (memory : Memory) :
    (missingFiles sources).Quiet Memory.handler memory := by
  induction sources with
  | nil => exact Program.quiet_pure _
  | cons source rest ih =>
      exact (Program.quiet_ask rfl rfl rfl).bind (ih.bind (Program.quiet_pure _))

/-- Nothing is copied when every copy holds the bytes of its source. -/
theorem quiet_placeSources
    {directory : Path}
    (policy : RetryPolicy)
    {sources : List Path}
    {placement : Placement}
    {memory : Memory}
    (copied : ∀ copy ∈ assignedCopies directory sources placement, ∃ contents,
      memory.files.find? copy.1 = some contents ∧ memory.files.find? copy.2 = some contents)
    (report : PlacementReport) :
    (placeSources directory policy sources placement report).Quiet Memory.handler memory := by
  induction sources generalizing placement report with
  | nil => exact Program.quiet_pure _
  | cons source rest ih =>
      refine (Program.quiet_ask rfl rfl rfl).bind ?_
      unfold assignedCopies at copied
      rw [Program.run_ask, Memory.handler]
      dsimp only
      cases placed : placement.copyOf? source with
      | some target =>
          rw [placed] at copied
          exact ih copied _
      | none =>
          rw [placed] at copied
          obtain ⟨⟨contents, held, there⟩, others⟩ := List.forall_mem_cons.1 copied
          exact (quiet_bring held there policy).bind (ih others _)

theorem quiet_placeResources
    {directory : Path}
    (policy : RetryPolicy)
    {sources : List Path}
    {memory : Memory}
    (copied : ∀ copy ∈ declaredCopies directory memory sources, ∃ contents,
      memory.files.find? copy.1 = some contents ∧ memory.files.find? copy.2 = some contents) :
    (placeResources sources directory policy).Quiet Memory.handler memory := by
  unfold placeResources
  split
  · exact Program.quiet_pure _
  refine (quiet_missingFiles sources memory).bind ((Program.quiet_ask rfl rfl rfl).bind ?_)
  rw [run_missingFiles, Program.run_ask, Memory.handler]
  dsimp only
  rw [filter_not_missing]
  exact quiet_placeSources policy copied _

end Generation
end QuestMod
