import QuestMod.Generation.Plan
import QuestMod.Proofs.Generation.FailingCopies
import QuestMod.Proofs.Generation.Progress

/-!
# Names of embedded resources

Placing resources ends after a bounded number of requests, whatever the store answers. Then
sources at one place share their copy, and copies at different places have names that
differ by more than case. The name under which the build embeds a copy is worked out from
the copy, and it is the name of the file itself.
-/

namespace QuestMod
namespace Generation

open Source (NameSet)
open Storage (Memory Program Steady)

/-! ## Requests -/

theorem asksAtMost_missingFiles (sources : List Path) :
    (missingFiles sources).AsksAtMost sources.length := by
  induction sources with
  | nil => trivial
  | cons source rest ih =>
      exact Program.asksAtMost_ask_bind fun _ => ih.bind fun _ => Program.asksAtMost_pure _ 0

/-- Every try that is left takes a wait and a copy. -/
theorem asksAtMost_tryCopy (source target : Path) (backoff left attempt : Nat) :
    (tryCopy backoff source target left attempt).AsksAtMost (2 * left + 1) := by
  induction left generalizing attempt with
  | zero =>
      rw [tryCopy]
      refine Program.asksAtMost_ask_bind fun answer => ?_
      cases answer with
      | ok count => trivial
      | error cause =>
          dsimp only
          split
          · trivial
          · trivial
  | succ left ih =>
      rw [tryCopy]
      refine Program.asksAtMost_ask_bind fun answer => ?_
      cases answer with
      | ok count => trivial
      | error cause =>
          dsimp only
          split
          · trivial
          · exact Program.asksAtMost_ask_bind fun _ => ih (attempt + 1)

theorem asksAtMost_bring (source place target : Path) (policy : RetryPolicy) :
    (bring source place target policy).AsksAtMost (2 * tries policy + 2) := by
  have finish : (bring.finish source target policy).AsksAtMost (2 * (tries policy - 1) + 1) := by
    have tried := asksAtMost_tryCopy source target policy.backoff (tries policy - 1) 1
    rw [← Nat.add_zero (2 * (tries policy - 1) + 1)]
    refine tried.bind fun answer => ?_
    cases answer with
    | ok count => exact Program.asksAtMost_pure _ 0
    | error failure => exact Program.asksAtMost_pure _ 0
  have positive : 1 ≤ tries policy := Nat.le_max_left 1 policy.attempts
  have bound : 2 * tries policy + 2 = 2 * (tries policy - 1) + 1 + 1 + 1 + 1 := by omega
  rw [bound]
  refine Program.asksAtMost_ask_bind fun targetPlace => ?_
  split
  · trivial
  refine Program.asksAtMost_ask_bind fun wanted => Program.asksAtMost_ask_bind fun existing => ?_
  split
  · split
    · trivial
    · exact finish
  · exact finish

theorem asksAtMost_placeSources
    (directory : Path)
    (policy : RetryPolicy)
    (sources : List Path)
    (placement : Placement)
    (report : PlacementReport) :
    (placeSources directory policy sources placement report).AsksAtMost
      (sources.length * (2 * tries policy + 3)) := by
  induction sources generalizing placement report with
  | nil => trivial
  | cons source rest ih =>
      have bound : (source :: rest).length * (2 * tries policy + 3) =
          2 * tries policy + 2 + rest.length * (2 * tries policy + 3) + 1 := by
        rw [List.length_cons, Nat.succ_mul]
        omega
      rw [placeSources, bound]
      refine Program.asksAtMost_ask_bind fun place => ?_
      split
      · exact (ih _ _).mono (Nat.le_add_left _ _)
      · exact (asksAtMost_bring source place _ policy).bind fun outcome => ih _ _

/-- For each source a file is looked for, two places are asked for, two files are read, and
every try takes a copy and a wait but the last one. -/
theorem asksAtMost_placeResources
    (sources : List Path)
    (directory : Path)
    (policy : RetryPolicy) :
    (placeResources sources directory policy).AsksAtMost
      (sources.length * (2 * tries policy + 4) + 1) := by
  unfold placeResources
  split
  · trivial
  have bound : sources.length * (2 * tries policy + 4) + 1 =
      sources.length + (sources.length * (2 * tries policy + 3) + 1) := by
    rw [Nat.mul_succ]
    omega
  rw [bound]
  refine (asksAtMost_missingFiles sources).bind fun missing => ?_
  refine Program.asksAtMost_ask_bind fun answer => ?_
  cases answer with
  | error cause => trivial
  | ok _ =>
      refine (asksAtMost_placeSources directory policy _ _ _).mono ?_
      exact Nat.mul_le_mul_right _ (List.length_filter_le ..)

/-! ## Names -/

/-- The copies in the report have names of their own and are embedded under them. -/
structure EmbedsApart
    (place : Path → Path)
    (directory : Path)
    (root directoryName : String)
    (report : PlacementReport) :
    Prop where
  /-- Sources at one place lead to one copy. -/
  shared : ∀ first second target other,
    report.destinations.find? first = some target →
    report.destinations.find? second = some other →
    (place first).sameAs (place second) = true →
    target = other
  /-- The names of copies of different places differ by more than case. -/
  apart : ∀ first second target other,
    report.destinations.find? first = some target →
    report.destinations.find? second = some other →
    (place first).sameAs (place second) = false →
    target.fileName?.map RawText.folded ≠ other.fileName?.map RawText.folded
  /-- The name worked out from a copy is the name of its file. -/
  ownName : ∀ target ∈ report.destinations.values, target.fileName? = some ↑(targetName target)
  /-- No two copies are embedded under one name. -/
  logicalName : ∀ target ∈ report.destinations.values, ∀ other ∈ report.destinations.values,
    manifestName root directoryName target = manifestName root directoryName other →
    target = other
  embedded : ((report.copied.map (embeddedResource root directoryName)).map
    Build.Embedding.logicalName).Nodup
  /-- A copy is included under the name that its file has in the directory. -/
  included : ∀ target ∈ report.copied, target ∈ report.destinations.values ∧
    ∃ name : String, target.fileName? = some ↑name ∧ target = directory.child name ∧
      (embeddedResource root directoryName target).includePath = directoryName ++ "\\" ++ name

theorem targetName_eq_of_manifestName_eq
    {root directoryName : String}
    {first second : Path}
    (same : manifestName root directoryName first = manifestName root directoryName second) :
    targetName first = targetName second :=
  (String.append_right_inj (root ++ "." ++ directoryName ++ ".")).1 same

/-- Names that are apart stay apart in the build. -/
theorem Progress.NamesCopies.embedsApart
    {place : Path → Path}
    {directory : Path}
    {handled : List Path}
    {progress : Progress}
    (names : progress.NamesCopies place directory handled)
    {given : List ResourceFailure}
    (settles : progress.Settles given)
    (root directoryName : String) :
    EmbedsApart place directory root directoryName progress.report where
  shared first second target other found otherFound same := by
    have known := names.copyOf?_of_find? found
    rw [copyOf?_eq_copyIn?, copyIn?_congr same] at known
    exact Option.some.inj (known.symm.trans (names.copyOf?_of_find? otherFound))
  apart first second target other found otherFound different := by
    obtain ⟨origin, member, atOrigin⟩ := exists_mem_of_copyIn? (names.copyOf?_of_find? found)
    obtain ⟨otherOrigin, otherMember, atOtherOrigin⟩ :=
      exists_mem_of_copyIn? (names.copyOf?_of_find? otherFound)
    rw [(names.isCopy _ member).fileName?_eq, (names.isCopy _ otherMember).fileName?_eq]
    intro same
    have folded := Option.some.inj same
    rw [RawText.folded_ofText, RawText.folded_ofText] at folded
    cases names.eq_of_foldCase_eq member otherMember (RawText.ofText_injective folded)
    rw [← Path.sameAs_congr_left atOrigin, atOtherOrigin] at different
    cases different
  ownName target member :=
    (names.isCopyIn_of_mem (names.mem_values_iff.1 member)).fileName?_eq
  logicalName target member other otherMember same :=
    (names.isCopyIn_of_mem (names.mem_values_iff.1 member)).eq_of_targetName_eq
      (names.isCopyIn_of_mem (names.mem_values_iff.1 otherMember))
      (targetName_eq_of_manifestName_eq same)
  embedded := by
    rw [List.map_map]
    refine (List.Nodup.of_append_left (settles.nodup names)).map_on ?_
    intro target member other otherMember same
    have isCopy {path : Path} (copied : path ∈ progress.report.copied) :
        IsCopyIn directory path :=
      names.isCopyIn_of_mem (settles.copies.subset (List.mem_append_left _ copied))
    exact (isCopy member).eq_of_targetName_eq (isCopy otherMember)
      (targetName_eq_of_manifestName_eq same)
  included target copied := by
    have member := settles.copies.subset (List.mem_append_left _ copied)
    have isCopy := names.isCopyIn_of_mem member
    exact ⟨names.mem_values_iff.2 member, targetName target, isCopy.fileName?_eq,
      isCopy.child_targetName.symm, rfl⟩

/-- Placing resources on a steady store ends, gives every present source a copy, and the copies
are embedded under names of their own. Files in memory are such a store, whichever copies are
locked, and there every copy that is embedded is a file in the end. -/
theorem resources_embed_under_names_of_their_own
    {σ : Type}
    (store : Steady σ)
    (state : σ)
    (sources : List Path)
    (directory : Path)
    (policy : RetryPolicy)
    (root directoryName : String) :
    ((placeResources sources directory policy).requests store.handler state).length ≤
        sources.length * (2 * tries policy + 4) + 1 ∧
      (∀ (wanted : String) (used : NameSet), ∃ number ≤ used.size,
        freeFileName wanted used = numberedFileName wanted number ∧
          Text.foldCase (numberedFileName wanted number) ∉ used.names ∧
          ∀ smaller < number,
            Text.foldCase (numberedFileName wanted smaller) ∈ used.names) ∧
      (∀ source ∈ sources, (store.files state).contains source = true →
        ((placeResources sources directory policy).run store.handler state).1.destinations.contains
          source = true) ∧
      EmbedsApart store.place directory root directoryName
        ((placeResources sources directory policy).run store.handler state).1 ∧
      ∀ (memory : Memory),
        ∀ target ∈ ((placeResources sources directory policy).run Memory.handler memory).1.copied,
          ((placeResources sources directory policy).run
            Memory.handler memory).2.files.contains target = true := by
  obtain ⟨last, steps, report⟩ :=
    Progress.exists_steps_placeResources store sources directory policy state
  have names := (Progress.namesCopies_start _ rfl).steps store.place_congr steps
  have settles := (Progress.settles_start _ _).steps steps
  rw [report]
  refine ⟨(asksAtMost_placeResources sources directory policy).length_requests_le _ _,
    freeFileName_is_least, fun source declared present => ?_,
    names.embedsApart settles root directoryName, fun memory => ?_⟩
  · rw [names.contains_destinations store.place_congr, List.nil_append, List.any_eq_true]
    exact ⟨source, List.mem_filter.2 ⟨declared, present⟩, Path.sameAs_refl source⟩
  · have ends := Memory.unreliable.mayEnd_run (placeResources sources directory policy) memory
    exact (exists_copied_of_mayEnd_placeResources ends).2

end Generation
end QuestMod
