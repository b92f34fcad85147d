import QuestMod.Proofs.Generation.DeletePlan

/-!
# Applying a plan

Each planned path has its turn, in plan order. At its turn a file is removed, unless the
removal is refused, and a file that is not there is passed over. As no path is planned twice,
the turns do not disturb each other, and what is reported and left can be told from the
refusals alone. Files that were all removed are neither found nor removed again.
-/

namespace QuestMod
namespace Generation

open Storage (Failure Guarded Handler Locking Memory Program)

variable {σ : Type} {store : Locking σ}

/-- The planned paths with the states in which their turns come. -/
def turns (store : Locking σ) : List Path → σ → List (Path × σ)
  | [], _ => []
  | path :: paths, state =>
      (path, state) :: turns store paths (store.handler (.remove path) state).2

/-- What a plan's turns come to. -/
structure RemovesExactly
    (store : Locking σ)
    (plan : List Path)
    (state : σ)
    (report : RemovalReport)
    (last : σ) : Prop where
  /-- The files that were there and whose removal was not refused are deleted. -/
  deleted_eq : report.deleted = ((turns store plan state).filter fun turn =>
    (store.memory state).files.contains turn.1 &&
      (store.refusal? turn.2 turn.1).isNone).map Prod.fst
  failed_eq : report.failed = (turns store plan state).filterMap fun turn =>
    (store.refusal? turn.2 turn.1).map fun cause => (turn.1, cause)
  deleted_sublist : report.deleted.Sublist plan
  failed_sublist : (report.failed.map Prod.fst).Sublist plan
  /-- Each planned file is reported once. -/
  once : ∀ path ∈ plan, (store.memory state).files.contains path = true →
    (report.deleted ++ report.failed.map Prod.fst).count path = 1
  /-- Nothing but the deleted files changes. -/
  memory_eq : store.memory last = (store.memory state).withFiles
    (report.deleted.foldl Path.Map.erase (store.memory state).files)
  find?_eq : ∀ path, (store.memory last).files.find? path =
    if report.deleted.any (fun removed => removed.sameAs path) then none
    else (store.memory state).files.find? path

/-! ## One turn -/

section

variable {path : Path} {paths : List Path} {state last : σ} {report : RemovalReport}

/-- A turn that is refused is reported as failed. -/
theorem run_removeAll_of_refused
    {cause : Failure}
    (refused : store.refusal? state path = some cause)
    (behind : (removeAll paths).run store.handler (store.handler (.remove path) state).2 =
      (report, last)) :
    (removeAll (path :: paths)).run store.handler state =
      ({ report with failed := (path, cause) :: report.failed }, last) := by
  rw [removeAll, Program.run_bind, Program.remove, Program.run_ask, Program.run_bind, behind,
    (store.refuses refused).1]
  dsimp only
  rw [if_neg (store.kind_ne refused)]
  rfl

/-- A turn that removes a file is reported as that. -/
theorem run_removeAll_of_present
    (free : store.refusal? state path = none)
    (present : (store.memory state).files.contains path = true)
    (behind : (removeAll paths).run store.handler (store.handler (.remove path) state).2 =
      (report, last)) :
    (removeAll (path :: paths)).run store.handler state =
      ({ report with deleted := path :: report.deleted }, last) := by
  have answer : (store.handler (.remove path) state).1 = .ok () := by
    rw [(store.removes free).1, Memory.remove, if_pos present]
  rw [removeAll, Program.run_bind, Program.remove, Program.run_ask, Program.run_bind, behind,
    answer]
  rfl

/-- A turn at which nothing is there is not reported. -/
theorem run_removeAll_of_absent
    (free : store.refusal? state path = none)
    (absent : (store.memory state).files.contains path = false)
    (behind : (removeAll paths).run store.handler (store.handler (.remove path) state).2 =
      (report, last)) :
    (removeAll (path :: paths)).run store.handler state = (report, last) := by
  have answer : (store.handler (.remove path) state).1 = .error (Memory.missing path) := by
    rw [(store.removes free).1, Memory.remove, absent, if_neg Bool.false_ne_true]
  rw [removeAll, Program.run_bind, Program.remove, Program.run_ask, Program.run_bind, behind,
    answer]
  rfl

end

/-- The files behind a turn. -/
theorem memory_remove
    (store : Locking σ)
    (state : σ)
    (path : Path) :
    store.memory (store.handler (.remove path) state).2 =
      if (store.memory state).files.contains path && (store.refusal? state path).isNone then
        (store.memory state).withFiles ((store.memory state).files.erase path)
      else store.memory state := by
  cases refused : store.refusal? state path with
  | some cause =>
      rw [(store.refuses refused).2]
      simp
  | none =>
      rw [(store.removes refused).2, Memory.remove]
      simp only [Option.isNone_none, Bool.and_true]
      split <;> rfl

/-- A turn leaves other paths as they are. -/
theorem contains_remove
    {state : σ}
    {path other : Path}
    (apart : path.sameAs other = false) :
    (store.memory (store.handler (.remove path) state).2).files.contains other =
      (store.memory state).files.contains other := by
  rw [memory_remove]
  split
  · rw [Memory.files_withFiles, Path.Map.contains_eq_isSome, Path.Map.contains_eq_isSome,
      Path.Map.find?_erase, apart]
    rfl
  · rfl

/-! ## All turns -/

theorem map_fst_turns (store : Locking σ) (plan : List Path) (state : σ) :
    (turns store plan state).map Prod.fst = plan := by
  induction plan generalizing state with
  | nil => rfl
  | cons path paths ih => rw [turns, List.map_cons, ih]

/-- The turn deletes a file that is in the memory. -/
def deletes (store : Locking σ) (memory : Memory) (turn : Path × σ) : Bool :=
  memory.files.contains turn.1 && (store.refusal? turn.2 turn.1).isNone

/-- The failure that the turn is refused with. -/
def refusalAt? (store : Locking σ) (turn : Path × σ) : Option (Path × Failure) :=
  (store.refusal? turn.2 turn.1).map fun cause => (turn.1, cause)

/-- Turns of other paths do not notice a turn. -/
theorem filter_deletes_remove
    {path : Path}
    {paths : List Path}
    (apart : ∀ other ∈ paths, path.sameAs other = false)
    (state later : σ) :
    (turns store paths later).filter
        (deletes store (store.memory (store.handler (.remove path) state).2)) =
      (turns store paths later).filter (deletes store (store.memory state)) := by
  refine List.filter_congr fun turn member => ?_
  have planned : turn.1 ∈ paths := by
    rw [← map_fst_turns store paths later]
    exact List.mem_map_of_mem member
  rw [deletes, deletes, contains_remove (apart turn.1 planned)]

/-- What is deleted, refused and left, told from the turns. -/
theorem run_removeAll_eq_turns
    {plan : List Path}
    (distinct : plan.Pairwise fun first second => first.sameAs second = false)
    {state last : σ}
    {report : RemovalReport}
    (runs : (removeAll plan).run store.handler state = (report, last)) :
    report.deleted =
        ((turns store plan state).filter (deletes store (store.memory state))).map Prod.fst ∧
      report.failed = (turns store plan state).filterMap (refusalAt? store) ∧
      store.memory last = (store.memory state).withFiles
        (report.deleted.foldl Path.Map.erase (store.memory state).files) := by
  induction plan generalizing state report last with
  | nil =>
      cases runs
      exact ⟨rfl, rfl, rfl⟩
  | cons path paths ih =>
      obtain ⟨apart, others⟩ := List.pairwise_cons.1 distinct
      obtain ⟨later, finish, behind⟩ : ∃ later finish,
          (removeAll paths).run store.handler (store.handler (.remove path) state).2 =
            (later, finish) := ⟨_, _, rfl⟩
      obtain ⟨deleted, failed, memory⟩ := ih others behind
      rw [filter_deletes_remove apart] at deleted
      have files := memory_remove store state path
      have head : deletes store (store.memory state) (path, state) =
        ((store.memory state).files.contains path && (store.refusal? state path).isNone) := rfl
      rw [turns, List.filter_cons, head, List.filterMap_cons, refusalAt?]
      cases refused : store.refusal? state path with
      | some cause =>
          rw [run_removeAll_of_refused refused behind] at runs
          cases runs
          simp only [refused, Option.isNone_some, Bool.and_false, Bool.false_eq_true, if_false]
            at files ⊢
          rw [files] at memory
          exact ⟨deleted, congrArg ((path, cause) :: ·) failed, memory⟩
      | none =>
          cases present : (store.memory state).files.contains path with
          | true =>
              rw [run_removeAll_of_present refused present behind] at runs
              cases runs
              simp only [refused, present, Option.isNone_none, Bool.and_true, if_true] at files ⊢
              rw [files] at memory
              exact ⟨congrArg (path :: ·) deleted, failed, memory⟩
          | false =>
              rw [run_removeAll_of_absent refused present behind] at runs
              cases runs
              simp only [present, Bool.false_and, Bool.false_eq_true, if_false] at files ⊢
              rw [files] at memory
              exact ⟨deleted, failed, memory⟩

/-- Taking paths away one after the other takes all of them away. -/
theorem find?_foldl_erase
    {α : Type}
    (removed : List Path)
    (files : Path.Map α)
    (path : Path) :
    (removed.foldl Path.Map.erase files).find? path =
      if removed.any (fun other => other.sameAs path) then none else files.find? path := by
  induction removed generalizing files with
  | nil => rfl
  | cons first removed ih =>
      rw [List.foldl_cons, ih, Path.Map.find?_erase, List.any_cons]
      cases first.sameAs path with
      | true => exact ite_self _
      | false => rfl

/-- The paths of the refused turns. -/
theorem map_fst_refusalAt? (store : Locking σ) (turned : List (Path × σ)) :
    (turned.filterMap (refusalAt? store)).map Prod.fst =
      (turned.filter fun turn => !(store.refusal? turn.2 turn.1).isNone).map Prod.fst := by
  induction turned with
  | nil => rfl
  | cons turn turned ih =>
      rw [List.filterMap_cons, List.filter_cons, refusalAt?]
      cases store.refusal? turn.2 turn.1 with
      | none => exact ih
      | some cause => exact congrArg (turn.1 :: ·) ih

/-- A path that is there is deleted or refused at each of its turns. -/
theorem count_reported
    (store : Locking σ)
    {memory : Memory}
    {path : Path}
    (present : memory.files.contains path = true)
    (turned : List (Path × σ)) :
    ((turned.filter (deletes store memory)).map Prod.fst ++
        (turned.filterMap (refusalAt? store)).map Prod.fst).count path =
      (turned.map Prod.fst).count path := by
  rw [map_fst_refusalAt?, List.count_append]
  induction turned with
  | nil => rfl
  | cons turn turned ih =>
      obtain ⟨other, state⟩ := turn
      rw [List.map_cons, List.count_cons, ← ih, List.filter_cons, List.filter_cons, deletes]
      dsimp only
      by_cases same : other = path
      · subst same
        rw [present]
        cases store.refusal? state other with
        | none => simp [Nat.add_right_comm]
        | some cause => simp [Nat.add_assoc]
      · cases store.refusal? state other with
        | none => cases memory.files.contains other <;> simp [List.count_cons_of_ne same, same]
        | some cause => simp [List.count_cons_of_ne same, same]

/-- The turns of a plan that holds no path twice. -/
theorem removesExactly
    {plan : List Path}
    (distinct : plan.Pairwise fun first second => first.sameAs second = false)
    {state last : σ}
    {report : RemovalReport}
    (runs : (removeAll plan).run store.handler state = (report, last)) :
    RemovesExactly store plan state report last := by
  obtain ⟨deleted, failed, memory⟩ := run_removeAll_eq_turns distinct runs
  have planned := map_fst_turns store plan state
  have kept (chosen : Path × σ → Bool) :
      (((turns store plan state).filter chosen).map Prod.fst).Sublist plan := by
    have sublist : ((turns store plan state).filter chosen).Sublist _ := List.filter_sublist
    have mapped := sublist.map Prod.fst
    rwa [planned] at mapped
  have nodup : plan.Nodup := distinct.imp fun different => by
    rintro rfl
    rw [Path.sameAs_refl] at different
    cases different
  refine ⟨deleted, failed, ?_, ?_, fun path member present => ?_, memory, fun path => ?_⟩
  · rw [deleted]
    exact kept _
  · rw [failed, map_fst_refusalAt?]
    exact kept _
  · rw [deleted, failed, count_reported store present, planned]
    rw [nodup.count, if_pos member]
  · rw [memory]
    exact find?_foldl_erase _ _ path

/-! ## The same plan again -/

/-- A scan finds the stale files and changes nothing. -/
theorem run_scan_locking
    (store : Locking σ)
    (directories : List ClassDirectory)
    (state : σ) :
    ((scan directories).run store.handler state).1 =
        .ok (staleFiles (store.memory state) directories) ∧
      store.memory ((scan directories).run store.handler state).2 = store.memory state := by
  have lists : ((listAll directories).run store.handler state).1 =
        .ok (directories.map fun classes =>
          (classes, (store.memory state).list classes.directory Source.sourceExtension)) ∧
      store.memory ((listAll directories).run store.handler state).2 = store.memory state := by
    induction directories generalizing state with
    | nil => exact ⟨rfl, rfl⟩
    | cons classes rest ih =>
        have answer := store.lists classes.directory Source.sourceExtension state
        obtain ⟨others, unchanged⟩ := ih (store.handler
          (.list classes.directory Source.sourceExtension) state).2
        rw [answer.2] at others unchanged
        rw [listAll, Program.run_bind, Program.list, Program.run_ask, answer.1]
        dsimp only
        rw [Program.run_bind, others]
        exact ⟨rfl, unchanged⟩
  rw [scan, Program.run_bind, lists.1]
  exact ⟨rfl, lists.2⟩

/-- When no removal failed, no stale file is left. -/
theorem noStale_of_failed_eq_nil
    {directories : List ClassDirectory}
    {state last : σ}
    {report : RemovalReport}
    (removes : RemovesExactly store (staleFiles (store.memory state) directories) state report last)
    (succeeded : report.failed = []) :
    NoStale (store.memory last) directories := by
  intro path contents held classes known
  rw [Bool.eq_false_iff]
  intro stale
  rw [removes.find?_eq] at held
  split at held
  · cases held
  · rename_i kept
    obtain ⟨planned, member, same⟩ := exists_mem_staleFiles known held stale
    have present : (store.memory state).files.contains planned = true := by
      rw [Path.Map.contains_congr _ same, Path.Map.contains_eq_isSome, held]
      rfl
    have reported := removes.once planned member present
    rw [succeeded, List.map_nil, List.append_nil] at reported
    have deleted : planned ∈ report.deleted := List.count_pos_iff.1 (by omega)
    exact kept (List.any_eq_true.2 ⟨planned, deleted, same⟩)

/-- Where no stale file is left, planned files are not there. -/
theorem contains_eq_false_of_noStale
    {memory memoryThen : Memory}
    {directories : List ClassDirectory}
    (noStale : NoStale memory directories)
    {path : Path}
    (planned : path ∈ staleFiles memoryThen directories) :
    memory.files.contains path = false := by
  obtain ⟨classes, known, stale⟩ := isStale_of_mem_planOfListings planned
  rw [List.map_map] at known
  rw [Bool.eq_false_iff, Path.Map.contains_eq_isSome]
  intro present
  obtain ⟨contents, held⟩ := Option.isSome_iff_exists.1 present
  have fresh := noStale path contents held classes (by simpa using known)
  rw [stale] at fresh
  cases fresh

/-- A removal that is let through is let through after any program. -/
theorem refusal?_run
    {α : Type}
    (releases : store.Releases)
    {path : Path}
    {state : σ}
    (free : store.refusal? state path = none)
    (program : Program α) :
    store.refusal? (program.run store.handler state).2 path = none := by
  induction program generalizing state with
  | done result => exact free
  | request asked next ih => exact ih _ (releases asked state path free)

/-- What was let through at its turn is let through behind the last turn. -/
theorem refusal?_of_turns
    (releases : store.Releases)
    {plan : List Path}
    {state : σ}
    (free : ∀ turn ∈ turns store plan state, store.refusal? turn.2 turn.1 = none) :
    ∀ path ∈ plan,
      store.refusal? ((removeAll plan).run store.handler state).2 path = none := by
  induction plan generalizing state with
  | nil => exact List.forall_mem_nil _
  | cons first rest ih =>
      obtain ⟨firstFree, others⟩ := List.forall_mem_cons.1 free
      refine List.forall_mem_cons.2 ⟨refusal?_run releases firstFree _, ?_⟩
      rw [run_removeAll_cons_snd]
      exact ih others

/-- What is let through is let through at its turn. -/
theorem turns_of_refusal?
    (releases : store.Releases)
    {plan : List Path}
    {state : σ}
    (free : ∀ path ∈ plan, store.refusal? state path = none) :
    ∀ turn ∈ turns store plan state, store.refusal? turn.2 turn.1 = none := by
  induction plan generalizing state with
  | nil => exact List.forall_mem_nil _
  | cons first rest ih =>
      obtain ⟨firstFree, others⟩ := List.forall_mem_cons.1 free
      exact List.forall_mem_cons.2
        ⟨firstFree, ih fun path member => releases _ state path (others path member)⟩

/-- Behind a plan without failures nothing is left to do: no file is planned again, and the
same plan deletes nothing. Where a removal that is let through is not refused later, the same
plan fails at nothing either, at once or behind another scan. -/
structure LeavesNothing
    (store : Locking σ)
    (directories : List ClassDirectory)
    (plan : List Path)
    (last : σ) : Prop where
  scan_eq : ((scan directories).run store.handler last).1 = .ok []
  deletes_nothing : ∀ later, store.memory later = store.memory last →
    ((removeAll plan).run store.handler later).1.deleted = [] ∧
      store.memory ((removeAll plan).run store.handler later).2 = store.memory last
  replay_eq : store.Releases → ((removeAll plan).run store.handler last).1 = ⟨[], []⟩
  replay_scanned_eq : store.Releases →
    ((removeAll plan).run store.handler
      ((scan directories).run store.handler last).2).1 = ⟨[], []⟩

/-- Where planned files are not there, a plan deletes nothing. -/
theorem RemovesExactly.deleted_eq_nil
    {plan : List Path}
    {state last : σ}
    {report : RemovalReport}
    (removes : RemovesExactly store plan state report last)
    (absent : ∀ path ∈ plan, (store.memory state).files.contains path = false) :
    report.deleted = [] ∧ store.memory last = store.memory state := by
  have nothing : report.deleted = [] := by
    rw [removes.deleted_eq, List.map_eq_nil_iff, List.filter_eq_nil_iff]
    intro turn member
    have planned : turn.1 ∈ plan := by
      rw [← map_fst_turns store plan state]
      exact List.mem_map_of_mem member
    rw [absent turn.1 planned]
    exact Bool.false_ne_true
  refine ⟨nothing, ?_⟩
  rw [removes.memory_eq, nothing]
  rfl

/-- Where no planned removal is refused, none fails. -/
theorem RemovesExactly.failed_eq_nil
    {plan : List Path}
    {state last : σ}
    {report : RemovalReport}
    (removes : RemovesExactly store plan state report last)
    (free : ∀ turn ∈ turns store plan state, store.refusal? turn.2 turn.1 = none) :
    report.failed = [] := by
  rw [removes.failed_eq, List.filterMap_eq_nil_iff]
  intro turn member
  rw [free turn member]
  rfl

/-- Where no planned removal failed, none was refused. -/
theorem RemovesExactly.refusal?_eq_none
    {plan : List Path}
    {state last : σ}
    {report : RemovalReport}
    (removes : RemovesExactly store plan state report last)
    (succeeded : report.failed = []) :
    ∀ turn ∈ turns store plan state, store.refusal? turn.2 turn.1 = none := by
  intro turn member
  have failed := removes.failed_eq
  rw [succeeded, eq_comm, List.filterMap_eq_nil_iff] at failed
  exact Option.map_eq_none_iff.1 (failed turn member)

/-- A scan of different directories plans no file twice. -/
theorem distinct_of_scan
    {handler : Handler σ}
    {directories : List ClassDirectory}
    (apart : Apart directories)
    {state : σ}
    {plan : List Path}
    (planned : ((scan directories).run handler state).1 = .ok plan) :
    plan.Pairwise fun first second => first.sameAs second = false := by
  have scans := scansExactly apart handler state
  by_cases failed : ∃ answer ∈ listingAnswers handler directories state,
      ∃ cause, answer.2 = .error cause
  · obtain ⟨⟨before, classes, cause, after, _, _, stops⟩, _⟩ := scans.fails failed
    rw [planned] at stops
    cases stops
  · obtain ⟨whole, answer, isPlan⟩ := scans.plans failed
    rw [planned] at answer
    cases answer
    exact isPlan.distinct

theorem leavesNothing
    {directories : List ClassDirectory}
    (apart : Apart directories)
    {plan : List Path}
    {first second last : σ}
    {report : RemovalReport}
    (scans : (scan directories).run store.handler first = (.ok plan, second))
    (runs : (removeAll plan).run store.handler second = (report, last))
    (succeeded : report.failed = []) :
    LeavesNothing store directories plan last := by
  have distinct : plan.Pairwise fun first second => first.sameAs second = false :=
    distinct_of_scan apart (congrArg Prod.fst scans)
  have removes := removesExactly distinct runs
  have answer := run_scan_locking store directories first
  rw [scans] at answer
  obtain ⟨planned, unchanged⟩ := answer
  have plan_eq : plan = staleFiles (store.memory second) directories := by
    rw [Except.ok.inj planned, unchanged]
  have noStale := noStale_of_failed_eq_nil (plan_eq ▸ removes) succeeded
  have again := run_scan_locking store directories last
  have absent : ∀ path ∈ plan, (store.memory last).files.contains path = false :=
    fun path member => contains_eq_false_of_noStale noStale (plan_eq ▸ member)
  have deletes {later : σ} (same : store.memory later = store.memory last) :
      ((removeAll plan).run store.handler later).1.deleted = [] ∧
        store.memory ((removeAll plan).run store.handler later).2 = store.memory last := by
    rw [← same] at absent ⊢
    exact (removesExactly distinct rfl).deleted_eq_nil absent
  have fails {later : σ}
      (free : ∀ path ∈ plan, store.refusal? later path = none)
      (releases : store.Releases) :
      ((removeAll plan).run store.handler later).1.failed = [] :=
    (removesExactly distinct rfl).failed_eq_nil (turns_of_refusal? releases free)
  have free (releases : store.Releases) : ∀ path ∈ plan, store.refusal? last path = none := by
    have behind := refusal?_of_turns releases (removes.refusal?_eq_none succeeded)
    rw [runs] at behind
    exact behind
  have report_eq (replay : RemovalReport) (deleted : replay.deleted = [])
      (failed : replay.failed = []) : replay = ⟨[], []⟩ := by
    cases replay
    cases deleted
    cases failed
    rfl
  refine ⟨?_, fun later same => deletes same, fun releases => ?_, fun releases => ?_⟩
  · rw [again.1, staleFiles_eq_nil noStale]
  · exact report_eq _ (deletes rfl).1 (fails (free releases) releases)
  · refine report_eq _ (deletes again.2).1 (fails (fun path member => ?_) releases)
    exact refusal?_run releases (free releases path member) _

/-- A plan for different directories is exact, and it is made from all listings or not at all: a
listed class file is planned when its name is a text and that of no current class. Applying it
is exact whatever removals are refused. When none failed it leaves nothing to do again, and
where refusals are faults that were set on removals before, the same plan then fails at
nothing. -/
theorem deletePlan_exact
    {directories : List ClassDirectory}
    (apart : Apart directories) :
    (∀ (σ : Type) (handler : Handler σ) (state : σ),
      ScansExactly handler directories state) ∧
    (∀ (σ : Type) (handler : Handler σ) (state : σ) (plan : List Path),
      ((scan directories).run handler state).1 = .ok plan →
      ∀ (τ : Type) (store : Locking τ) (start last : τ) (report : RemovalReport),
        (removeAll plan).run store.handler start = (report, last) →
        RemovesExactly store plan start report last) ∧
    (∀ (τ : Type) (store : Locking τ) (first second last : τ) (plan : List Path)
      (report : RemovalReport),
      (scan directories).run store.handler first = (.ok plan, second) →
      (removeAll plan).run store.handler second = (report, last) →
      report.failed = [] → LeavesNothing store directories plan last) ∧
    ∀ (first second last : { guarded : Guarded Memory // guarded.IsLocking })
      (plan : List Path) (report : RemovalReport),
      (scan directories).run Guarded.locking.handler first = (.ok plan, second) →
      (removeAll plan).run Guarded.locking.handler second = (report, last) →
      report.failed = [] →
        ((removeAll plan).run Guarded.locking.handler last).1 = ⟨[], []⟩ ∧
        ((removeAll plan).run Guarded.locking.handler
          ((scan directories).run Guarded.locking.handler last).2).1 = ⟨[], []⟩ := by
  refine ⟨fun _ handler state => scansExactly apart handler state,
    fun _ handler state plan planned _ store start last report runs => ?_,
    fun _ store first second last plan report scans runs succeeded =>
      leavesNothing apart scans runs succeeded,
    fun first second last plan report scans runs succeeded => ?_⟩
  · exact removesExactly (distinct_of_scan apart planned) runs
  · have leaves := leavesNothing apart scans runs succeeded
    exact ⟨leaves.replay_eq Guarded.releases_locking,
      leaves.replay_scanned_eq Guarded.releases_locking⟩

/-- Two class directories, one of them with a current class. -/
def heldDirectories : List ClassDirectory :=
  [⟨⟨"out/Quests"⟩, ["Bar.cs"]⟩, ⟨⟨"out/NPCs/"⟩, []⟩]

/-- The class files in the directories that are stale. -/
def heldPlan : List Path :=
  [⟨"out/Quests/Foo.cs"⟩, ⟨"out/NPCs/Old.CS"⟩]

/-- Class files, one of which is held by another program for some removals. -/
def heldFiles (times : Nat) : { guarded : Guarded Memory // guarded.IsLocking } :=
  ⟨{ faults := [⟨.remove, ⟨"out/Quests/Foo.cs"⟩, ⟨.permissionDenied, "held"⟩, some times⟩]
     store :=
      { files := ⟨[(⟨"out/NPCs/Old.CS"⟩, []), (⟨"out/Quests/Foo.cs"⟩, []),
          (⟨"out/Quests/bar.cs"⟩, [])]⟩ } },
    by simp, by simp⟩

/-- While the file is held it is reported and left, and when it is free again nothing is left
to do behind it. -/
theorem deletePlan_heldFiles :
    Apart heldDirectories ∧
      ((scan heldDirectories).run Guarded.locking.handler (heldFiles 1)).1 = .ok heldPlan ∧
      RemovesExactly Guarded.locking heldPlan (heldFiles 1)
        ⟨[⟨"out/NPCs/Old.CS"⟩], [(⟨"out/Quests/Foo.cs"⟩, ⟨.permissionDenied, "held"⟩)]⟩
        ((removeAll heldPlan).run Guarded.locking.handler (heldFiles 1)).2 ∧
      LeavesNothing Guarded.locking heldDirectories heldPlan
        ((removeAll heldPlan).run Guarded.locking.handler
          ((scan heldDirectories).run Guarded.locking.handler (heldFiles 0)).2).2 := by
  have apart : Apart heldDirectories := by decide
  have held : ((scan heldDirectories).run Guarded.locking.handler (heldFiles 1)).1 =
      .ok heldPlan := by with_unfolding_all rfl
  have free : ((scan heldDirectories).run Guarded.locking.handler (heldFiles 0)).1 =
      .ok heldPlan := by with_unfolding_all rfl
  have succeeds : ((removeAll heldPlan).run Guarded.locking.handler
      ((scan heldDirectories).run Guarded.locking.handler (heldFiles 0)).2).1.failed = [] := rfl
  obtain ⟨_, removes, leaves, _⟩ := deletePlan_exact apart
  exact ⟨apart, held, removes _ _ _ _ held _ _ _ _ _ (Prod.ext rfl rfl),
    leaves _ _ _ _ _ _ _ (Prod.ext free rfl) rfl succeeds⟩

/-! ## What is neither planned nor prevented -/

/-- The path is a class file in the directory whose name, a text or not, is none that is
expected there. -/
structure IsUnexpectedIn (classes : ClassDirectory) (path : Path) : Prop where
  parent : ∃ parent, path.parent? = some parent ∧
    parent.components = classes.directory.components
  extension : ∃ extension : String, path.extension? = some ↑extension ∧
    Text.sameIgnoringCase extension "cs" = true
  unexpected : ∃ name, path.fileName? = some name ∧
    ∀ expected ∈ classes.expected, name.folded ≠ (RawText.ofText expected).folded

/-- The path `out/Quests/café.cs` with the last letter of its stem in Latin-1, where it is one
byte. -/
def latinFile : Path :=
  ⟨⟨(RawText.ofText "out/Quests/caf").bytes ++ 0xE9 :: (RawText.ofText ".cs").bytes⟩⟩

/-- A store with that file only. -/
def latinFiles : Memory where
  files := ⟨[(latinFile, [])]⟩

/-- A class file whose name is no text is listed and unexpected, but never planned. And a
removal may be refused when the file is gone: behind a plan without failures, a fault that is
set late makes the same plan fail. -/
theorem latin_name_is_not_planned_and_late_fault_is_reported :
    Apart heldDirectories ∧
      (∃ answer ∈ listingAnswers Memory.handler heldDirectories latinFiles,
        IsListed answer latinFile ∧ IsUnexpectedIn answer.1 latinFile) ∧
      ((scan heldDirectories).run Memory.handler latinFiles).1 = .ok [] ∧
      ∃ emptied : Guarded Memory,
        (scan heldDirectories).run (Guarded.handler Memory.handler) (heldFiles 0).1 =
          (.ok heldPlan, (heldFiles 0).1) ∧
        (removeAll heldPlan).run (Guarded.handler Memory.handler) (heldFiles 0).1 =
          (⟨heldPlan, []⟩, emptied) ∧
        ((removeAll heldPlan).run (Guarded.handler Memory.handler) (emptied.addFault
            ⟨.remove, ⟨"out/NPCs/Old.CS"⟩, ⟨.permissionDenied, "held"⟩, none⟩)).1 =
          ⟨[], [(⟨"out/NPCs/Old.CS"⟩, ⟨.permissionDenied, "held"⟩)]⟩ := by
  have named : latinFile.fileName? =
      some ⟨(RawText.ofText "caf").bytes ++ 0xE9 :: (RawText.ofText ".cs").bytes⟩ := by
    decide +kernel
  have unexpected : IsUnexpectedIn ⟨⟨"out/Quests"⟩, ["Bar.cs"]⟩ latinFile :=
    ⟨⟨⟨"out/Quests"⟩, by decide +kernel, rfl⟩, ⟨"cs", by decide +kernel, by decide +kernel⟩,
      ⟨_, named, by decide +kernel⟩⟩
  have listed : listingAnswers Memory.handler heldDirectories latinFiles =
      [(⟨⟨"out/Quests"⟩, ["Bar.cs"]⟩, .ok [latinFile]), (⟨⟨"out/NPCs/"⟩, []⟩, .ok [])] := by
    with_unfolding_all rfl
  refine ⟨by decide, ⟨_, listed ▸ List.mem_cons_self, ⟨[latinFile], rfl, latinFile,
    List.mem_singleton_self _, Path.sameAs_refl _⟩, unexpected⟩, by with_unfolding_all rfl, _,
    by with_unfolding_all rfl, rfl, by with_unfolding_all rfl⟩

end Generation
end QuestMod
