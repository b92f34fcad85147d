import QuestMod.Proofs.Generation.Placement
import QuestMod.Proofs.Storage.Unreliable

/-!
# Copies behind failing calls

Whichever calls fail, the copies that are reported are some of the assigned ones, in their
order, and every one of them is a file in the end.
-/

namespace QuestMod
namespace Generation

open Storage (Memory Program)

variable {memory last : Memory} {source target : Path}

/-! ## One copy -/

/-- A copy that is made leaves a file. -/
theorem contains_copy
    {count : Nat}
    (copied : (memory.copy source target).1 = .ok count) :
    (memory.copy source target).2.files.contains target = true := by
  unfold Memory.copy at copied ⊢
  split at copied
  · cases copied
  · split at copied
    · rw [Path.Map.contains_eq_isSome, memory.find?_write]
      rfl
    · cases copied

/-- A file that could be read is there. -/
theorem contains_of_read
    {path : Path}
    {contents : Storage.Bytes}
    (answers : memory.MayAnswer (.read path) (.ok contents) last) :
    last.files.contains path = true := by
  rcases answers with ⟨held, rfl⟩ | ⟨⟨_, failed⟩, _⟩
  · rw [Memory.handler, Memory.read] at held
    rw [Path.Map.contains_eq_isSome]
    cases found : last.files.find? path with
    | some _ => rfl
    | none =>
        rw [found] at held
        cases held
  · cases failed

/-- A program goes on behind a copy that was made, or behind one that failed. -/
theorem made_or_failed_of_mayEnd
    {α : Type}
    {rest : Except Storage.Failure Nat → Program α}
    {result : α}
    (ends : (Program.copy source target >>= rest).MayEnd memory result last) :
    (∃ count middle, middle.files.contains target = true ∧
        (rest (.ok count)).MayEnd middle result last) ∨
      ∃ cause middle, (rest (.error cause)).MayEnd middle result last := by
  rcases Program.mayEnd_ask_bind_iff.1 ends with answered | ⟨_, ⟨cause, rfl⟩, failed⟩
  · rw [Memory.handler] at answered
    cases copied : (memory.copy source target).1 with
    | ok count =>
        rw [copied] at answered
        exact .inl ⟨count, _, contains_copy copied, answered⟩
    | error cause =>
        rw [copied] at answered
        exact .inr ⟨cause, _, answered⟩
  · exact .inr ⟨cause, memory, failed⟩

/-- A copy that is not given up is made by one of the tries. -/
theorem contains_tryCopy
    {backoff left attempt count : Nat}
    (ends : (tryCopy backoff source target left attempt).MayEnd memory (.ok count) last) :
    last.files.contains target = true := by
  induction left generalizing memory attempt with
  | zero =>
      rw [tryCopy] at ends
      rcases made_or_failed_of_mayEnd ends with ⟨_, _, present, _, rfl⟩ | ⟨cause, _, failed⟩
      · exact present
      · dsimp only at failed
        split at failed
        · cases failed.1
        · cases failed.1
  | succ left ih =>
      rw [tryCopy] at ends
      rcases made_or_failed_of_mayEnd ends with ⟨_, _, present, _, rfl⟩ | ⟨cause, _, failed⟩
      · exact present
      · dsimp only at failed
        split at failed
        · cases failed.1
        · obtain ⟨_, _, _, again⟩ := Program.mayEnd_bind_iff.1 failed
          exact ih again

/-- A source that was there and is not given up has a copy. -/
theorem contains_bring
    {policy : RetryPolicy}
    {outcome : CopyOutcome}
    (present : memory.files.contains source = true)
    (ends : (bring source source target policy).MayEnd memory outcome last)
    (succeeded : outcome.failure? = none) :
    last.files.contains target = true := by
  have finished {middle : Memory}
      (ends : (bring.finish source target policy).MayEnd middle outcome last) :
      last.files.contains target = true := by
    obtain ⟨answer, later, tried, ends⟩ := Program.mayEnd_bind_iff.1 ends
    cases answer with
    | ok count =>
        obtain ⟨_, rfl⟩ := ends
        exact contains_tryCopy tried
    | error failure =>
        obtain ⟨rfl, _⟩ := ends
        cases succeeded
  rcases Program.mayEnd_ask_bind_iff.1 ends with ends | ⟨_, ⟨⟩, _⟩
  rw [Memory.handler] at ends
  dsimp only at ends
  split at ends
  · rename_i same
    obtain ⟨_, rfl⟩ := ends
    rw [← last.files.contains_congr same]
    exact present
  obtain ⟨wanted, _, _, ends⟩ := Program.mayEnd_bind_iff.1 ends
  obtain ⟨existing, middle, answers, ends⟩ := Program.mayEnd_bind_iff.1 ends
  split at ends
  · split at ends
    · obtain ⟨_, rfl⟩ := ends
      exact contains_of_read (Program.mayEnd_ask_iff.1 answers)
    · exact finished ends
  · exact finished ends

/-! ## Several copies -/

/-- Copies of present sources keep every file, also when calls fail. -/
theorem contains_placeSources
    {directory path : Path}
    {policy : RetryPolicy}
    {sources : List Path}
    {placement : Placement}
    {report result : PlacementReport}
    (present : memory.files.contains path = true)
    (ends : (placeSources directory policy sources placement report).MayEnd memory result last) :
    last.files.contains path = true :=
  Memory.contains_of_mayEnd
    (changesOnly_placeSources (fun _ _ => trivial) _ _ _ _) present ends

/-- Placing sources adds some of their assigned copies to the report, in order, and all of
these are files in the end. -/
theorem exists_copied_of_mayEnd_placeSources
    {directory : Path}
    {policy : RetryPolicy}
    {sources : List Path}
    {placement : Placement}
    {report result : PlacementReport}
    (present : ∀ source ∈ sources, memory.files.contains source = true)
    (ends : (placeSources directory policy sources placement report).MayEnd memory result last) :
    ∃ kept,
      result.copied = report.copied ++ kept ∧
        kept.Sublist ((assignedCopies directory sources placement).map Prod.snd) ∧
        ∀ path ∈ kept, last.files.contains path = true := by
  induction sources generalizing placement report memory with
  | nil =>
      obtain ⟨rfl, _⟩ := ends
      exact ⟨[], (List.append_nil _).symm, .slnil, List.forall_mem_nil _⟩
  | cons source rest ih =>
      obtain ⟨first, others⟩ := List.forall_mem_cons.1 present
      rcases Program.mayEnd_ask_bind_iff.1 ends with ends | ⟨_, ⟨⟩, _⟩
      rw [Memory.handler] at ends
      dsimp only at ends
      unfold assignedCopies
      cases placed : placement.copyOf? source with
      | some target =>
          rw [placed] at ends
          obtain ⟨kept, copied, assigned, there⟩ := ih others ends
          exact ⟨kept, copied, assigned, there⟩
      | none =>
          rw [placed] at ends
          obtain ⟨outcome, middle, brought, ends⟩ := Program.mayEnd_bind_iff.1 ends
          have kept {path : Path} (there : memory.files.contains path = true) :
              middle.files.contains path = true :=
            Memory.contains_of_mayEnd
              (changesOnly_bring trivial _ _ _) there brought
          obtain ⟨later, copied, assigned, there⟩ :=
            ih (fun other member => kept (others other member)) ends
          rw [copied_record, List.append_assoc] at copied
          refine ⟨_, copied, ?_, ?_⟩
          · split
            · exact assigned.cons_cons _
            · exact assigned.cons _
          · refine List.forall_mem_append.2 ⟨?_, there⟩
            split
            · rename_i succeeded
              exact List.forall_mem_singleton.2 <|
                contains_placeSources (contains_bring first brought succeeded) ends
            · exact List.forall_mem_nil _

/-- A declared path that is not missing is a file. -/
theorem contains_of_not_mem_missing
    {sources missing : List Path}
    (ends : (missingFiles sources).MayEnd memory missing last)
    {source : Path}
    (declared : source ∈ sources)
    (found : source ∉ missing) :
    last.files.contains source = true := by
  induction sources generalizing memory missing with
  | nil => cases declared
  | cons first rest ih =>
      obtain ⟨isFile, middle, answers, ends⟩ := Program.mayEnd_bind_iff.1 ends
      obtain ⟨others, later, searched, rfl, rfl⟩ := Program.mayEnd_bind_iff.1 ends
      rcases List.mem_cons.1 declared with rfl | inRest
      · cases isFile with
        | false => exact absurd List.mem_cons_self found
        | true =>
            refine Memory.contains_of_mayEnd (changesOnly_missingFiles _) ?_ searched
            rcases Program.mayEnd_ask_iff.1 answers with ⟨present, rfl⟩ | ⟨absent, _⟩
            · exact present.symm
            · cases absent
      · refine ih searched inRest fun missed => found ?_
        split
        · exact missed
        · exact List.mem_cons_of_mem first missed

/-- Placing resources reports some of the copies that belong to some of the sources, in
order, and all of these are files in the end. -/
theorem exists_copied_of_mayEnd_placeResources
    {directory : Path}
    {policy : RetryPolicy}
    {sources : List Path}
    {result : PlacementReport}
    (ends : (placeResources sources directory policy).MayEnd memory result last) :
    (∃ existing, result.copied.Sublist ((assignedCopies directory existing {}).map Prod.snd)) ∧
      ∀ path ∈ result.copied, last.files.contains path = true := by
  unfold placeResources at ends
  split at ends
  · obtain ⟨rfl, _⟩ := ends
    exact ⟨⟨[], .slnil⟩, List.forall_mem_nil _⟩
  obtain ⟨missing, middle, searched, ends⟩ := Program.mayEnd_bind_iff.1 ends
  rcases Program.mayEnd_ask_bind_iff.1 ends with ends | ⟨_, ⟨cause, rfl⟩, ends⟩
  · rw [Memory.handler] at ends
    dsimp only at ends
    have present : ∀ source ∈ sources.filter (fun source => !missing.any source.sameAs),
        middle.files.contains source = true := by
      intro source member
      obtain ⟨declared, notMissing⟩ := List.mem_filter.1 member
      refine contains_of_not_mem_missing searched declared fun missed => ?_
      have found : missing.any source.sameAs = true :=
        List.any_eq_true.2 ⟨source, missed, Path.sameAs_refl source⟩
      rw [found] at notMissing
      cases notMissing
    obtain ⟨kept, copied, assigned, there⟩ := exists_copied_of_mayEnd_placeSources present ends
    rw [List.nil_append] at copied
    rw [copied]
    exact ⟨⟨_, assigned⟩, there⟩
  · obtain ⟨rfl, _⟩ := ends
    exact ⟨⟨[], .slnil⟩, List.forall_mem_nil _⟩

end Generation
end QuestMod
