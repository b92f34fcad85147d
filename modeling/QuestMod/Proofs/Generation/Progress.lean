import Mathlib.Data.List.Nodup
import QuestMod.Proofs.Generation.Placement

/-!
# Sources placed one after the other

On a steady store the sources are placed in steps. A source whose place has a copy already
shares it, and any other source gets a copy of its own under a free name. What becomes of
the copy is up to the store, but the names, the destinations and the notices on renamed
resources are not, and every copy ends up in one list of the report.
-/

namespace QuestMod
namespace Generation

open Source (NameSet)
open Storage (Program Steady)

/-! ## Reports -/

/-- The copy that a failure is about. -/
def ResourceFailure.copy? : ResourceFailure → Option CopyFailure
  | .notCopied failure => some failure
  | _ => none

/-- The copies that were given up. -/
def PlacementReport.givenUp (report : PlacementReport) : List CopyFailure :=
  report.failures.filterMap ResourceFailure.copy?

/-- The notice tells of a resource whose name is not the wanted one. -/
def ResourceNotice.isRenamed : ResourceNotice → Bool
  | .renamed _ _ _ => true
  | _ => false

/-- The notices on renamed resources. -/
def PlacementReport.renamed (report : PlacementReport) : List ResourceNotice :=
  report.notices.filter ResourceNotice.isRenamed

section

variable (report : PlacementReport) (target : Path) (outcome : CopyOutcome)

theorem renamed_record : (report.record target outcome).renamed = report.renamed := by
  have behind (notice : ResourceNotice) (other : notice.isRenamed = false) :
      (report.notices ++ [notice]).filter ResourceNotice.isRenamed = report.renamed := by
    rw [List.filter_append, List.filter_cons, other]
    exact List.append_nil _
  cases outcome with
  | inPlace => exact behind _ rfl
  | upToDate => exact behind _ rfl
  | copied => rfl
  | failed failure => rfl

theorem givenUp_record :
    (report.record target outcome).givenUp = report.givenUp ++ outcome.failure?.toList := by
  rw [PlacementReport.givenUp, failures_record, List.filterMap_append]
  cases outcome.failure? <;> rfl

end

/-! ## Outcomes of copies -/

theorem satisfies_tryCopy (source target : Path) (backoff left attempt : Nat) :
    (tryCopy backoff source target left attempt).Satisfies (fun _ => True) fun answer =>
      ∀ failure, answer = .error failure → failure.target = target := by
  induction left generalizing attempt with
  | zero =>
      rw [tryCopy]
      refine Program.satisfies_ask_bind trivial fun answer => ?_
      cases answer with
      | ok count => rintro failure ⟨⟩
      | error cause =>
          dsimp only
          split
          · rintro failure ⟨⟩
            rfl
          · rintro failure ⟨⟩
            rfl
  | succ left ih =>
      rw [tryCopy]
      refine Program.satisfies_ask_bind trivial fun answer => ?_
      cases answer with
      | ok count => rintro failure ⟨⟩
      | error cause =>
          dsimp only
          split
          · rintro failure ⟨⟩
            rfl
          · exact Program.satisfies_ask_bind trivial fun _ => ih (attempt + 1)

/-- A copy that is given up is reported under its own path. -/
theorem satisfies_bring (source place target : Path) (policy : RetryPolicy) :
    (bring source place target policy).Satisfies (fun _ => True) fun outcome =>
      ∀ failure, outcome.failure? = some failure → failure.target = target := by
  have finish : (bring.finish source target policy).Satisfies (fun _ => True)
      fun outcome => ∀ failure, outcome.failure? = some failure → failure.target = target := by
    refine (satisfies_tryCopy source target _ _ _).bind fun answer tells => ?_
    cases answer with
    | ok count => rintro failure ⟨⟩
    | error cause =>
        rintro failure ⟨⟩
        exact tells cause rfl
  refine Program.satisfies_ask_bind trivial fun targetPlace => ?_
  split
  · rintro failure ⟨⟩
  refine Program.satisfies_ask_bind trivial fun wanted => ?_
  refine Program.satisfies_ask_bind trivial fun existing => ?_
  split
  · split
    · rintro failure ⟨⟩
    · exact finish
  · exact finish

/-! ## Steps -/

/-- Placed sources with the report on them. -/
structure Progress where
  placement : Placement := {}
  report : PlacementReport

namespace Progress

/-- The copy that the next source gets when it shares none. -/
def nextTarget (progress : Progress) (directory source : Path) : Path :=
  directory.child (progress.placement.nextName source)

theorem isCopyIn_nextTarget (progress : Progress) (directory source : Path) :
    IsCopyIn directory (progress.nextTarget directory source) :=
  ⟨progress.placement.nextName source, isTargetName_freeFileName source _, rfl⟩

theorem targetName_nextTarget (progress : Progress) (directory source : Path) :
    targetName (progress.nextTarget directory source) = progress.placement.nextName source :=
  (isTargetName_freeFileName source _).targetName_child directory

/-- The source leads to a copy that is chosen already. -/
def share (progress : Progress) (source target : Path) : Progress where
  placement := progress.placement
  report := { progress.report with
    destinations := progress.report.destinations.insert source target }

/-- The source gets a copy of its own. -/
def bring
    (progress : Progress)
    (directory source place : Path)
    (outcome : CopyOutcome) :
    Progress where
  placement :=
    ⟨progress.placement.usedNames.insert (Text.foldCase (progress.placement.nextName source)),
      (place, progress.nextTarget directory source) :: progress.placement.placed⟩
  report :=
    { progress.report with
      destinations :=
        progress.report.destinations.insert source (progress.nextTarget directory source)
      notices :=
        progress.report.notices ++
          renameNotices source (progress.placement.nextName source) (targetName source)
    }.record (progress.nextTarget directory source) outcome

/-- One more source is placed, whatever becomes of its copy. -/
inductive Step
    (place : Path → Path)
    (directory source : Path)
    (before : Progress) :
    Progress → Prop
  | shared
      {target : Path}
      (known : before.placement.copyOf? (place source) = some target) :
      Step place directory source before (before.share source target)
  | placed
      (new : before.placement.copyOf? (place source) = none)
      {outcome : CopyOutcome}
      (tells : ∀ failure, outcome.failure? = some failure →
        failure.target = before.nextTarget directory source) :
      Step place directory source before (before.bring directory source (place source) outcome)

/-- Sources are placed one after the other. -/
inductive Steps (place : Path → Path) (directory : Path) : List Path → Progress → Progress → Prop
  | nil {progress : Progress} : Steps place directory [] progress progress
  | cons
      {source : Path}
      {sources : List Path}
      {before middle after : Progress}
      (first : Step place directory source before middle)
      (later : Steps place directory sources middle after) :
      Steps place directory (source :: sources) before after

variable {place : Path → Path} {directory : Path}

/-! ## Names do not depend on copies -/

/-- Both runs have chosen the same names and told of them. -/
structure SameNames (first second : Progress) : Prop where
  placement : first.placement = second.placement
  destinations : first.report.destinations = second.report.destinations
  renamed : first.report.renamed = second.report.renamed

variable {source : Path} {before after otherBefore otherAfter : Progress}

theorem SameNames.share
    (same : SameNames before otherBefore)
    (source target : Path) :
    SameNames (before.share source target) (otherBefore.share source target) where
  placement := same.placement
  destinations := congrArg (·.insert source target) same.destinations
  renamed := same.renamed

/-- The outcome of a copy changes no name. -/
theorem SameNames.bring
    (same : SameNames before otherBefore)
    (directory source place : Path)
    (outcome otherOutcome : CopyOutcome) :
    SameNames (before.bring directory source place outcome)
      (otherBefore.bring directory source place otherOutcome) where
  placement := by
    unfold Progress.bring nextTarget
    rw [same.placement]
  destinations := by
    unfold Progress.bring nextTarget
    simp only [destinations_record, same.placement, same.destinations]
  renamed := by
    unfold Progress.bring
    simp only [renamed_record]
    have front := same.renamed
    unfold PlacementReport.renamed at front ⊢
    rw [List.filter_append, List.filter_append, front, same.placement]

theorem SameNames.step
    (same : SameNames before otherBefore)
    (step : Step place directory source before after)
    (otherStep : Step place directory source otherBefore otherAfter) :
    SameNames after otherAfter := by
  cases step with
  | shared known =>
      rw [same.placement] at known
      cases otherStep with
      | shared otherKnown =>
          cases known.symm.trans otherKnown
          exact same.share source _
      | placed new _ => cases known.symm.trans new
  | placed new _ =>
      rw [same.placement] at new
      cases otherStep with
      | shared known => cases known.symm.trans new
      | placed _ _ => exact same.bring directory source (place source) _ _

/-- Two runs over the same sources choose the same names, whichever copies fail. -/
theorem SameNames.steps
    {sources : List Path}
    (same : SameNames before otherBefore)
    (steps : Steps place directory sources before after)
    (otherSteps : Steps place directory sources otherBefore otherAfter) :
    SameNames after otherAfter := by
  induction steps generalizing otherBefore with
  | nil =>
      cases otherSteps
      exact same
  | cons first _ ih =>
      cases otherSteps with
      | cons otherFirst otherLater => exact ih (same.step first otherFirst) otherLater

/-! ## Names are apart -/

/-- What the progress holds after some sources: every place has one copy with a name of its
own, and every source leads to the copy of its place. -/
structure NamesCopies
    (place : Path → Path)
    (directory : Path)
    (handled : List Path)
    (progress : Progress) :
    Prop where
  isCopy : ∀ entry ∈ progress.placement.placed, IsCopyIn directory entry.2
  used : ∀ entry ∈ progress.placement.placed,
    Text.foldCase (targetName entry.2) ∈ progress.placement.usedNames.names
  apart : progress.placement.placed.Pairwise fun later earlier =>
    earlier.1.sameAs later.1 = false ∧
      Text.foldCase (targetName earlier.2) ≠ Text.foldCase (targetName later.2)
  origin : ∀ entry ∈ progress.placement.placed, ∃ source ∈ handled, entry.1 = place source
  known : ∀ source ∈ handled, (progress.placement.copyOf? (place source)).isSome = true
  destinations : ∀ path,
    progress.report.destinations.find? path =
      if handled.any (·.sameAs path) then progress.placement.copyOf? (place path) else none

theorem namesCopies_start (report : PlacementReport) (empty : report.destinations = .empty) :
    NamesCopies place directory [] { report } where
  isCopy := List.forall_mem_nil _
  used := List.forall_mem_nil _
  apart := .nil
  origin := List.forall_mem_nil _
  known := List.forall_mem_nil _
  destinations path := congrArg (·.find? path) empty

variable {handled : List Path}

theorem any_sameAs_append (handled : List Path) (source path : Path) :
    (handled ++ [source]).any (·.sameAs path) =
      (handled.any (·.sameAs path) || source.sameAs path) := by
  rw [List.any_append, List.any_cons, List.any_nil, Bool.or_false]

section

variable
  (place_congr : ∀ {first second : Path}, first.sameAs second = true →
    (place first).sameAs (place second) = true)
  (names : NamesCopies place directory handled before)

include place_congr names

theorem NamesCopies.share
    {target : Path}
    (known : before.placement.copyOf? (place source) = some target) :
    NamesCopies place directory (handled ++ [source]) (before.share source target) where
  isCopy := names.isCopy
  used := names.used
  apart := names.apart
  origin entry member := by
    obtain ⟨origin, isHandled, equal⟩ := names.origin entry member
    exact ⟨origin, List.mem_append_left _ isHandled, equal⟩
  known := by
    refine List.forall_mem_append.2 ⟨names.known, List.forall_mem_singleton.2 ?_⟩
    exact Option.isSome_iff_exists.2 ⟨target, known⟩
  destinations path := by
    unfold Progress.share
    dsimp only
    rw [Path.Map.find?_insert, names.destinations, any_sameAs_append]
    cases same : source.sameAs path with
    | false => rw [Bool.or_false, if_neg Bool.false_ne_true]
    | true =>
        rw [copyOf?_eq_copyIn?, copyIn?_congr (place_congr same), ← copyOf?_eq_copyIn?] at known
        rw [Bool.or_true, if_pos rfl, if_pos rfl, known]

theorem NamesCopies.isSome_copyOf?_of_any
    {path : Path}
    (isHandled : handled.any (·.sameAs path) = true) :
    (before.placement.copyOf? (place path)).isSome = true := by
  obtain ⟨other, member, same⟩ := List.any_eq_true.1 isHandled
  rw [copyOf?_eq_copyIn?, ← copyIn?_congr (place_congr same)]
  exact names.known other member

/-- Every handled source has a destination, and no other path has one. -/
theorem NamesCopies.contains_destinations (path : Path) :
    before.report.destinations.contains path = handled.any (·.sameAs path) := by
  rw [Path.Map.contains_eq_isSome, names.destinations]
  cases isHandled : handled.any (·.sameAs path) with
  | true => exact names.isSome_copyOf?_of_any place_congr isHandled
  | false => rfl

/-- A source without a copy is at another place than every earlier source. -/
theorem NamesCopies.not_sameAs_place
    (new : before.placement.copyOf? (place source) = none)
    {path : Path}
    (isHandled : handled.any (·.sameAs path) = true) :
    (place source).sameAs (place path) = false := by
  have known := names.isSome_copyOf?_of_any place_congr isHandled
  rw [Bool.eq_false_iff]
  intro samePlace
  rw [copyOf?_eq_copyIn?, ← copyIn?_congr samePlace, ← copyOf?_eq_copyIn?, new] at known
  cases known

/-- The name of a new copy is free and its place is new, so both stay apart from the earlier
ones. -/
theorem NamesCopies.bring
    (new : before.placement.copyOf? (place source) = none)
    (outcome : CopyOutcome) :
    NamesCopies place directory (handled ++ [source])
      (before.bring directory source (place source) outcome) where
  isCopy := List.forall_mem_cons.2 ⟨before.isCopyIn_nextTarget directory source, names.isCopy⟩
  used := by
    refine List.forall_mem_cons.2 ⟨(NameSet.mem_insert _ _ _).2 (.inl ?_), fun entry member => ?_⟩
    · rw [before.targetName_nextTarget]
    · exact (NameSet.mem_insert _ _ _).2 (.inr (names.used entry member))
  apart := by
    refine List.pairwise_cons.2 ⟨fun entry member => ⟨?_, fun same => ?_⟩, names.apart⟩
    · exact not_sameAs_of_copyIn?_eq_none new entry member
    · have free := foldCase_freeFileName_not_mem (targetName source) before.placement.usedNames
      rw [before.targetName_nextTarget] at same
      exact free (same ▸ names.used entry member)
  origin := by
    refine List.forall_mem_cons.2 ⟨⟨source, List.mem_append_right _ List.mem_cons_self, rfl⟩, ?_⟩
    intro entry member
    obtain ⟨origin, isHandled, equal⟩ := names.origin entry member
    exact ⟨origin, List.mem_append_left _ isHandled, equal⟩
  known := by
    unfold Progress.bring
    dsimp only
    simp only [copyOf?_eq_copyIn?, copyIn?_cons]
    refine List.forall_mem_append.2 ⟨fun other isHandled => ?_, List.forall_mem_singleton.2 ?_⟩
    · split
      · rfl
      · exact names.known other isHandled
    · rw [Path.sameAs_refl]
      rfl
  destinations path := by
    unfold Progress.bring
    simp only [destinations_record, Path.Map.find?_insert, copyOf?_eq_copyIn?, copyIn?_cons,
      names.destinations, any_sameAs_append]
    cases same : source.sameAs path with
    | true =>
        rw [Bool.or_true, if_pos rfl, if_pos rfl, place_congr same, if_pos rfl]
    | false =>
        rw [Bool.or_false, if_neg Bool.false_ne_true]
        split
        · rename_i isHandled
          rw [names.not_sameAs_place place_congr new isHandled, if_neg Bool.false_ne_true]
        · rfl

/-- Every step keeps the names apart. -/
theorem NamesCopies.step
    (step : Step place directory source before after) :
    NamesCopies place directory (handled ++ [source]) after := by
  cases step with
  | shared known => exact names.share place_congr known
  | placed new _ => exact names.bring place_congr new _

theorem NamesCopies.steps
    {sources : List Path}
    (steps : Steps place directory sources before after) :
    NamesCopies place directory (handled ++ sources) after := by
  induction steps generalizing handled with
  | nil => rwa [List.append_nil]
  | cons first _ ih =>
      rw [List.append_cons]
      exact ih (names.step place_congr first)

end

/-! ## Destinations -/

section

variable (names : NamesCopies place directory handled before)

include names

/-- A destination is the copy of the place that its source leads to. -/
theorem NamesCopies.copyOf?_of_find?
    {path target : Path}
    (found : before.report.destinations.find? path = some target) :
    before.placement.copyOf? (place path) = some target := by
  rw [names.destinations] at found
  split at found
  · exact found
  · cases found

/-- Every copy is found at its own place. -/
theorem NamesCopies.copyOf?_of_mem
    {entry : Path × Path}
    (member : entry ∈ before.placement.placed) :
    before.placement.copyOf? entry.1 = some entry.2 := by
  have apart := names.apart
  rw [copyOf?_eq_copyIn?]
  -- No entry in front of it shares its place, so the search does not stop before it.
  revert apart member
  induction before.placement.placed with
  | nil =>
      intro member
      cases member
  | cons first rest ih =>
      intro member apart
      obtain ⟨firstApart, restApart⟩ := List.pairwise_cons.1 apart
      rw [copyIn?_cons]
      rcases List.mem_cons.1 member with rfl | later
      · rw [Path.sameAs_refl, if_pos rfl]
      · rw [Path.sameAs_comm, (firstApart entry later).1, if_neg Bool.false_ne_true]
        exact ih later restApart

/-- The destinations are exactly the copies that were chosen. -/
theorem NamesCopies.mem_values_iff
    {target : Path} :
    target ∈ before.report.destinations.values ↔
      target ∈ before.placement.placed.map Prod.snd := by
  rw [Path.Map.mem_values_iff]
  constructor
  · rintro ⟨path, found⟩
    obtain ⟨origin, member, _⟩ := exists_mem_of_copyIn? (names.copyOf?_of_find? found)
    exact List.mem_map_of_mem member
  · intro member
    obtain ⟨entry, isPlaced, rfl⟩ := List.mem_map.1 member
    obtain ⟨source, isHandled, origin⟩ := names.origin entry isPlaced
    have handledSource : handled.any (·.sameAs source) = true :=
      List.any_eq_true.2 ⟨source, isHandled, Path.sameAs_refl source⟩
    refine ⟨source, ?_⟩
    rw [names.destinations, handledSource, if_pos rfl, ← origin]
    exact names.copyOf?_of_mem isPlaced

theorem NamesCopies.isCopyIn_of_mem
    {target : Path}
    (member : target ∈ before.placement.placed.map Prod.snd) :
    IsCopyIn directory target := by
  obtain ⟨entry, isPlaced, rfl⟩ := List.mem_map.1 member
  exact names.isCopy entry isPlaced

/-- No copy is chosen twice. -/
theorem NamesCopies.nodup_copies : (before.placement.placed.map Prod.snd).Nodup :=
  List.Pairwise.map Prod.snd (fun _ _ apart same => apart.2 (by rw [same])) names.apart

/-- The names of different copies differ by more than case. -/
theorem NamesCopies.eq_of_foldCase_eq
    {entry other : Path × Path}
    (member : entry ∈ before.placement.placed)
    (otherMember : other ∈ before.placement.placed)
    (same : Text.foldCase (targetName entry.2) = Text.foldCase (targetName other.2)) :
    entry = other := by
  have distinct :
      (before.placement.placed.map fun entry => Text.foldCase (targetName entry.2)).Nodup :=
    List.Pairwise.map _ (fun _ _ apart => apart.2.symm) names.apart
  exact List.inj_on_of_nodup_map distinct member otherMember same

end

/-! ## Copies are accounted for -/

/-- Every copy is either in place or given up, and nothing else has failed on the way. -/
structure Settles (given : List ResourceFailure) (progress : Progress) : Prop where
  failures : progress.report.failures = given ++ progress.report.givenUp.map .notCopied
  copies :
    (progress.report.copied ++ progress.report.givenUp.map CopyFailure.target).Perm
      (progress.placement.placed.map Prod.snd)

variable {given : List ResourceFailure}

/-- Nothing is settled yet in front of the first source. -/
theorem settles_start (missing : List Path) (directory : Path) :
    Settles (missingFailure? missing directory).toList
      { report := { failures := (missingFailure? missing directory).toList } } := by
  unfold missingFailure?
  split
  · exact ⟨rfl, .nil⟩
  · exact ⟨rfl, .nil⟩

theorem Settles.bring
    (settles : Settles given before)
    {outcome : CopyOutcome}
    (tells : ∀ failure, outcome.failure? = some failure →
      failure.target = before.nextTarget directory source) :
    Settles given (before.bring directory source (place source) outcome) where
  failures := by
    unfold Progress.bring
    rw [failures_record, givenUp_record, List.map_append, ← List.append_assoc]
    exact congrArg (· ++ outcome.failure?.toList.map .notCopied) settles.failures
  copies := by
    unfold Progress.bring
    rw [copied_record, givenUp_record]
    cases failed : outcome.failure? with
    | none =>
        rw [if_pos rfl, Option.toList_none, List.append_nil, List.append_assoc]
        exact List.perm_middle.trans (settles.copies.cons _)
    | some failure =>
        rw [if_neg (Option.some_ne_none failure), List.append_nil, Option.toList_some,
          List.map_append, ← List.append_assoc, List.map_singleton, tells failure failed]
        exact (List.perm_append_singleton _ _).trans (settles.copies.cons _)

theorem Settles.step
    (settles : Settles given before)
    (step : Step place directory source before after) :
    Settles given after := by
  cases step with
  | shared _ => exact ⟨settles.failures, settles.copies⟩
  | placed _ tells => exact settles.bring tells

theorem Settles.steps
    {sources : List Path}
    (settles : Settles given before)
    (steps : Steps place directory sources before after) :
    Settles given after := by
  induction steps with
  | nil => exact settles
  | cons first _ ih => exact ih (settles.step first)

/-- Every copy is listed once, as one in place or as one that was given up. -/
theorem Settles.nodup
    (settles : Settles given before)
    (names : NamesCopies place directory handled before) :
    (before.report.copied ++ before.report.givenUp.map CopyFailure.target).Nodup :=
  settles.copies.nodup_iff.2 names.nodup_copies

/-! ## Runs on a steady store -/

/-- A run over sources takes one step for each. -/
theorem exists_steps_placeSources
    {σ : Type}
    (store : Steady σ)
    (directory : Path)
    (policy : RetryPolicy)
    (sources : List Path)
    (progress : Progress)
    (state : σ) :
    ∃ last, Steps store.place directory sources progress last ∧
      ((placeSources directory policy sources progress.placement progress.report).run
        store.handler state).1 = last.report := by
  induction sources generalizing progress state with
  | nil => exact ⟨progress, .nil, rfl⟩
  | cons source rest ih =>
      rw [placeSources, Program.run_bind, Program.canonical, Program.run_ask, store.canonical]
      cases known : progress.placement.copyOf? (store.place source) with
      | some target =>
          obtain ⟨last, steps, report⟩ := ih (progress.share source target) _
          exact ⟨last, .cons (.shared known) steps, report⟩
      | none =>
          dsimp only
          rw [Program.run_bind]
          have tells := (satisfies_bring source (store.place source)
            (progress.nextTarget directory source) policy).run store.handler
              (store.handler (.canonical source) state).2
          obtain ⟨last, steps, report⟩ := ih (progress.bring directory source _ _) _
          exact ⟨last, .cons (.placed known tells) steps, report⟩

/-- Placing resources takes one step for every source that is there. -/
theorem exists_steps_placeResources
    {σ : Type}
    (store : Steady σ)
    (sources : List Path)
    (directory : Path)
    (policy : RetryPolicy)
    (state : σ) :
    ∃ last,
      Steps store.place directory (sources.filter (store.files state).contains)
          { report := { failures := (missingFailure?
            (sources.filter fun source => !(store.files state).contains source)
            directory).toList } } last ∧
        ((placeResources sources directory policy).run store.handler state).1 = last.report := by
  unfold placeResources
  split
  · rename_i empty
    cases List.isEmpty_iff.1 empty
    exact ⟨_, .nil, rfl⟩
  · have present := filter_not_missing sources { files := store.files state }
    rw [Program.run_bind, run_missingFiles_of_steady, Program.run_bind,
      Program.createDirectories, Program.run_ask, store.createDirectories]
    dsimp only at present ⊢
    rw [present]
    exact exists_steps_placeSources store directory policy _ { report := _ } _

end Progress
end Generation
end QuestMod
