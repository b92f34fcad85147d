import QuestMod.Proofs.Path.Map

/-!
# Paths in order

The path order is total, and paths that stand in front of each other are equal by components.
So a sorted list without repetitions is strictly sorted: each of its paths stands in front of
all later ones and is none of them.
-/

namespace QuestMod
namespace Path

namespace Component

/-- Components are ordered by kind, and names among each other by their bytes. -/
theorem precedes_iff {first second : Component} :
    first.precedes second = true ↔
      first.rank < second.rank ∨
        ∃ name other, first = .named name ∧ second = .named other ∧ name.bytes < other.bytes := by
  cases first <;> cases second <;> simp [precedes, rank]

theorem precedes_trans
    {first second third : Component}
    (early : first.precedes second = true)
    (late : second.precedes third = true) :
    first.precedes third = true := by
  rw [precedes_iff] at early late ⊢
  rcases early with early | ⟨name, other, rfl, rfl, before⟩
  · rcases late with late | ⟨name, other, rfl, rfl, _⟩
    · exact .inl (by omega)
    · exact .inl early
  · rcases late with late | ⟨_, last, equal, rfl, later⟩
    · exact .inl late
    · cases equal
      exact .inr ⟨name, last, rfl, rfl, List.lt_trans before later⟩

theorem precedes_asymm
    {first second : Component}
    (early : first.precedes second = true) :
    second.precedes first = false := by
  rw [Bool.eq_false_iff]
  intro late
  rw [precedes_iff] at early late
  rcases early with early | ⟨name, other, rfl, rfl, before⟩
  · rcases late with late | ⟨name, other, rfl, rfl, _⟩
    · omega
    · exact absurd early (Nat.lt_irrefl _)
  · rcases late with late | ⟨_, _, first_eq, second_eq, after⟩
    · exact absurd late (Nat.lt_irrefl _)
    · cases first_eq
      cases second_eq
      exact List.lt_asymm before after

/-- Of two components one precedes the other, unless they are equal. -/
theorem precedes_trichotomy (first second : Component) :
    first.precedes second = true ∨ first = second ∨ second.precedes first = true := by
  rw [precedes_iff, precedes_iff]
  rcases Nat.lt_trichotomy first.rank second.rank with before | same | after
  · exact .inl (.inl before)
  · cases first <;> cases second <;> try cases same
    case named.named.refl name other =>
      by_cases before : name.bytes < other.bytes
      · exact .inl (.inr ⟨name, other, rfl, rfl, before⟩)
      · by_cases after : other.bytes < name.bytes
        · exact .inr (.inr (.inr ⟨other, name, rfl, rfl, after⟩))
        · have equal := List.le_antisymm (List.not_lt.1 after) (List.not_lt.1 before)
          exact .inr (.inl (congrArg (fun bytes => named ⟨bytes⟩) equal))
    all_goals exact .inr (.inl rfl)
  · exact .inr (.inr (.inl after))

end Component

/-! ## Component lists -/

theorem componentsAtMost_trans
    {first second third : List Component}
    (early : componentsAtMost first second = true)
    (late : componentsAtMost second third = true) :
    componentsAtMost first third = true := by
  induction first generalizing second third with
  | nil => rfl
  | cons a first ih =>
      cases second with
      | nil => cases early
      | cons b second =>
          cases third with
          | nil => cases late
          | cons c third =>
              simp only [componentsAtMost, Bool.or_eq_true, Bool.and_eq_true, beq_iff_eq]
                at early late ⊢
              rcases early with early | ⟨rfl, early⟩
              · rcases late with late | ⟨rfl, _⟩
                · exact .inl (Component.precedes_trans early late)
                · exact .inl early
              · rcases late with late | ⟨rfl, late⟩
                · exact .inl late
                · exact .inr ⟨rfl, ih early late⟩

/-- Of two lists of components, one is at most the other. -/
theorem componentsAtMost_total (first second : List Component) :
    componentsAtMost first second = true ∨ componentsAtMost second first = true := by
  induction first generalizing second with
  | nil => exact .inl rfl
  | cons a first ih =>
      cases second with
      | nil => exact .inr rfl
      | cons b second =>
          simp only [componentsAtMost, Bool.or_eq_true, Bool.and_eq_true, beq_iff_eq]
          rcases Component.precedes_trichotomy a b with before | rfl | after
          · exact .inl (.inl before)
          · rcases ih second with atMost | atMost
            · exact .inl (.inr ⟨rfl, atMost⟩)
            · exact .inr (.inr ⟨rfl, atMost⟩)
          · exact .inr (.inl after)

/-- Lists of components that are at most each other are equal. -/
theorem eq_of_componentsAtMost
    {first second : List Component}
    (early : componentsAtMost first second = true)
    (late : componentsAtMost second first = true) :
    first = second := by
  induction first generalizing second with
  | nil =>
      cases second with
      | nil => rfl
      | cons b second => cases late
  | cons a first ih =>
      cases second with
      | nil => cases early
      | cons b second =>
          simp only [componentsAtMost, Bool.or_eq_true, Bool.and_eq_true, beq_iff_eq]
            at early late
          rcases early with early | ⟨rfl, early⟩
          · rcases late with late | ⟨rfl, _⟩
            · rw [Component.precedes_asymm early] at late
              cases late
            · have apart := Component.precedes_asymm early
              rw [early] at apart
              cases apart
          · rcases late with late | ⟨_, late⟩
            · have apart := Component.precedes_asymm late
              rw [late] at apart
              cases apart
            · rw [ih early late]

/-! ## Paths -/

theorem atMost_trans
    (first second third : Path)
    (early : first.atMost second = true)
    (late : second.atMost third = true) :
    first.atMost third = true :=
  componentsAtMost_trans early late

theorem atMost_total (first second : Path) :
    (first.atMost second || second.atMost first) = true := by
  rw [Bool.or_eq_true]
  exact componentsAtMost_total first.components second.components

/-- Paths that stand in front of each other are equal. -/
theorem sameAs_of_atMost
    {first second : Path}
    (early : first.atMost second = true)
    (late : second.atMost first = true) :
    first.sameAs second = true :=
  sameAs_iff.2 (eq_of_componentsAtMost early late)

/-- The first path stands in front of the second one and is not equal to it. -/
def StrictlyBefore (first second : Path) : Prop :=
  first.atMost second = true ∧ first.sameAs second = false

/-- Of paths next to each other that are equal, the first one stays. -/
def dropRepetitions : List Path → List Path
  | [] => []
  | path :: paths =>
      match dropRepetitions paths with
      | [] => [path]
      | next :: rest =>
          if path.sameAs next then path :: rest else path :: next :: rest

theorem sortedDistinct_eq (paths : List Path) :
    sortedDistinct paths = dropRepetitions (paths.mergeSort atMost) := by
  rw [sortedDistinct]
  generalize paths.mergeSort atMost = sorted
  induction sorted with
  | nil => rfl
  | cons path sorted ih =>
      rw [List.foldr_cons, ih, dropRepetitions]
      cases dropRepetitions sorted <;> rfl

/-- Dropping repetitions keeps the order of what is left. -/
theorem dropRepetitions_sublist (paths : List Path) :
    (dropRepetitions paths).Sublist paths := by
  induction paths with
  | nil => exact .slnil
  | cons path paths ih =>
      rw [dropRepetitions]
      cases kept : dropRepetitions paths with
      | nil => exact (List.nil_sublist paths).cons_cons path
      | cons next rest =>
          rw [kept] at ih
          dsimp only
          split
          · exact ((List.sublist_cons_self next rest).trans ih).cons_cons path
          · exact ih.cons_cons path

/-- Dropping repetitions from a sorted list leaves a strictly sorted one. -/
theorem pairwise_dropRepetitions
    {sorted : List Path}
    (inOrder : sorted.Pairwise fun first second => first.atMost second = true) :
    (dropRepetitions sorted).Pairwise StrictlyBefore := by
  induction sorted with
  | nil => exact .nil
  | cons path sorted ih =>
      obtain ⟨first, others⟩ := List.pairwise_cons.1 inOrder
      have strict := ih others
      have behind {later : Path} (member : later ∈ dropRepetitions sorted) :
          path.atMost later = true := first later ((dropRepetitions_sublist sorted).subset member)
      rw [dropRepetitions]
      cases kept : dropRepetitions sorted with
      | nil => exact List.pairwise_singleton _ path
      | cons next rest =>
          rw [kept] at strict behind
          obtain ⟨nextBefore, restStrict⟩ := List.pairwise_cons.1 strict
          dsimp only
          split
          · rename_i same
            refine List.pairwise_cons.2 ⟨fun later member => ?_, restStrict⟩
            refine ⟨behind (List.mem_cons_of_mem next member), ?_⟩
            rw [sameAs_congr_left same]
            exact (nextBefore later member).2
          · rename_i different
            refine List.pairwise_cons.2 ⟨fun later member => ?_, strict⟩
            refine ⟨behind member, Bool.eq_false_iff.2 fun same => ?_⟩
            rcases List.mem_cons.1 member with rfl | inRest
            · exact different same
            · -- What stands between equal paths is equal to them.
              have back : next.atMost path = true := by
                rw [atMost, sameAs_iff.1 same]
                exact (nextBefore later inRest).1
              exact different (sameAs_of_atMost (behind List.mem_cons_self) back)

/-- Sorting and dropping repetitions leaves a strictly sorted list. -/
theorem pairwise_sortedDistinct (paths : List Path) :
    (sortedDistinct paths).Pairwise StrictlyBefore := by
  rw [sortedDistinct_eq]
  exact pairwise_dropRepetitions (List.pairwise_mergeSort atMost_trans atMost_total paths)

end Path
end QuestMod
