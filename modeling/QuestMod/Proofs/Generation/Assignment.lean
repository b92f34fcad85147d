import QuestMod.Proofs.Generation.ResourceName

/-!
# Copies of sources

Which copy a source gets depends on the list of sources only, not on any file. Each
distinct source gets one copy, all copies lie directly in the resource directory, and no
two of them share a path.
-/

namespace QuestMod
namespace Generation

open QuestMod.Path (IsFileName)

/-! ## Assigned copies -/

/-- The name of the next source's copy. -/
def Placement.nextName (placement : Placement) (source : Path) : String :=
  freeFileName (targetName source) placement.usedNames

/-- The placement with a copy for one more source. -/
def Placement.extend (placement : Placement) (directory source : Path) : Placement :=
  ⟨placement.usedNames.insert (Text.foldCase (placement.nextName source)),
    (source, directory.child (placement.nextName source)) :: placement.placed⟩

/-- Each distinct source with its copy, in order. Sources that are placed already are
left out. -/
def assignedCopies (directory : Path) : List Path → Placement → List (Path × Path)
  | [], _ => []
  | source :: sources, placement =>
      match placement.copyOf? source with
      | some _ => assignedCopies directory sources placement
      | none =>
          (source, directory.child (placement.nextName source)) ::
            assignedCopies directory sources (placement.extend directory source)

/-- The copy of every source. -/
def destinationsOf (directory : Path) :
    List Path → Placement → Path.Map Path → Path.Map Path
  | [], _, destinations => destinations
  | source :: sources, placement, destinations =>
      match placement.copyOf? source with
      | some target =>
          destinationsOf directory sources placement (destinations.insert source target)
      | none =>
          destinationsOf directory sources (placement.extend directory source)
            (destinations.insert source (directory.child (placement.nextName source)))

/-- The copy of a path's source in a list of copies. -/
def copyIn? (copies : List (Path × Path)) (path : Path) : Option Path :=
  (copies.find? fun entry => entry.1.sameAs path).map Prod.snd

theorem copyOf?_eq_copyIn? (placement : Placement) (path : Path) :
    placement.copyOf? path = copyIn? placement.placed path := rfl

theorem copyIn?_cons
    (source target path : Path)
    (copies : List (Path × Path)) :
    copyIn? ((source, target) :: copies) path =
      if source.sameAs path then some target else copyIn? copies path := by
  unfold copyIn?
  rw [List.find?_cons]
  cases source.sameAs path <;> rfl

theorem copyIn?_congr
    {first second : Path}
    (same : first.sameAs second = true)
    (copies : List (Path × Path)) :
    copyIn? copies first = copyIn? copies second := by
  unfold copyIn?
  simp only [Path.sameAs_congr_right same]

theorem not_sameAs_of_copyIn?_eq_none
    {copies : List (Path × Path)}
    {path : Path}
    (absent : copyIn? copies path = none) :
    ∀ entry ∈ copies, entry.1.sameAs path = false := by
  intro entry member
  exact Bool.eq_false_iff.2 (List.find?_eq_none.1 (Option.map_eq_none_iff.1 absent) entry member)

theorem exists_mem_of_copyIn?
    {copies : List (Path × Path)}
    {path target : Path}
    (found : copyIn? copies path = some target) :
    ∃ source, (source, target) ∈ copies ∧ source.sameAs path = true := by
  obtain ⟨⟨source, copy⟩, search, equal⟩ := Option.map_eq_some_iff.1 found
  cases equal
  have same := List.find?_some search
  exact ⟨source, List.mem_of_find?_eq_some search, same⟩

section

variable (directory : Path)

/-! ## Sources -/

theorem source_mem_of_mem_assignedCopies
    {sources : List Path}
    {placement : Placement}
    {source target : Path}
    (member : (source, target) ∈ assignedCopies directory sources placement) :
    source ∈ sources := by
  induction sources generalizing placement with
  | nil => cases member
  | cons first rest ih =>
      unfold assignedCopies at member
      split at member
      · exact List.mem_cons_of_mem first (ih member)
      · rcases List.mem_cons.1 member with equal | later
        · cases equal
          exact List.mem_cons_self
        · exact List.mem_cons_of_mem first (ih later)

/-- Every source has a copy, its own or one that was chosen before. -/
theorem isSome_copy_of_mem
    {sources : List Path}
    {source : Path}
    (member : source ∈ sources)
    (placement : Placement) :
    ((placement.copyOf? source).or
      (copyIn? (assignedCopies directory sources placement) source)).isSome = true := by
  induction sources generalizing placement with
  | nil => cases member
  | cons first rest ih =>
      unfold assignedCopies
      cases placedFirst : placement.copyOf? first with
      | some target =>
          rcases List.mem_cons.1 member with rfl | later
          · rw [placedFirst]
            rfl
          · exact ih later placement
      | none =>
          dsimp only
          rw [copyIn?_cons]
          rcases List.mem_cons.1 member with rfl | later
          · rw [Path.sameAs_refl, if_pos rfl, Option.or_some]
            rfl
          · have known := ih later (placement.extend directory first)
            rw [copyOf?_eq_copyIn?, Placement.extend, copyIn?_cons] at known
            split
            · rw [Option.or_some]
              rfl
            · rename_i different
              rw [if_neg different] at known
              exact known

/-- No source is assigned two copies. -/
theorem copyIn?_of_mem_assignedCopies
    {sources : List Path}
    {placement : Placement}
    {source target : Path}
    (member : (source, target) ∈ assignedCopies directory sources placement) :
    placement.copyOf? source = none ∧
      copyIn? (assignedCopies directory sources placement) source = some target := by
  induction sources generalizing placement with
  | nil => cases member
  | cons first rest ih =>
      unfold assignedCopies at member ⊢
      cases placedFirst : placement.copyOf? first with
      | some copy =>
          rw [placedFirst] at member
          exact ih member
      | none =>
          rw [placedFirst] at member
          dsimp only at member ⊢
          rcases List.mem_cons.1 member with equal | later
          · cases equal
            rw [copyIn?_cons, Path.sameAs_refl]
            exact ⟨placedFirst, rfl⟩
          · obtain ⟨notPlaced, found⟩ := ih later
            rw [copyOf?_eq_copyIn?, Placement.extend, copyIn?_cons] at notPlaced
            rw [copyIn?_cons]
            cases same : first.sameAs source with
            | true =>
                rw [same] at notPlaced
                cases notPlaced
            | false =>
                rw [same] at notPlaced
                exact ⟨notPlaced, found⟩

/-- A destination is the copy that was assigned. -/
theorem find?_destinationsOf
    (sources : List Path)
    (placement : Placement)
    (destinations : Path.Map Path)
    (path : Path) :
    (destinationsOf directory sources placement destinations).find? path =
      if sources.any (fun source => source.sameAs path) then
        (placement.copyOf? path).or (copyIn? (assignedCopies directory sources placement) path)
      else destinations.find? path := by
  induction sources generalizing placement destinations with
  | nil => rfl
  | cons first rest ih =>
      unfold destinationsOf assignedCopies
      rw [List.any_cons]
      cases placedFirst : placement.copyOf? first with
      | some target =>
          dsimp only
          rw [ih, Path.Map.find?_insert]
          cases same : first.sameAs path with
          | false => rfl
          | true =>
              have placedPath : placement.copyOf? path = some target := by
                rw [copyOf?_eq_copyIn?, ← copyIn?_congr same]
                exact placedFirst
              rw [placedPath]
              exact ite_self _
      | none =>
          dsimp only
          rw [ih, Path.Map.find?_insert, copyIn?_cons, copyOf?_eq_copyIn?, Placement.extend,
            copyIn?_cons]
          cases same : first.sameAs path with
          | false => rfl
          | true =>
              have notPlaced : placement.copyOf? path = none := by
                rw [copyOf?_eq_copyIn?, ← copyIn?_congr same]
                exact placedFirst
              rw [notPlaced]
              exact ite_self _

/-! ## Targets -/

/-- A copy has a name that was not used before. -/
theorem exists_name_of_mem_assignedCopies
    {sources : List Path}
    {placement : Placement}
    {source target : Path}
    (member : (source, target) ∈ assignedCopies directory sources placement) :
    ∃ name,
      IsTargetName name ∧ target = directory.child name ∧
        Text.foldCase name ∉ placement.usedNames.names := by
  induction sources generalizing placement with
  | nil => cases member
  | cons first rest ih =>
      unfold assignedCopies at member
      split at member
      · exact ih member
      · rcases List.mem_cons.1 member with equal | later
        · cases equal
          exact ⟨placement.nextName source, isTargetName_freeFileName source _, rfl,
            foldCase_freeFileName_not_mem _ _⟩
        · obtain ⟨name, isName, equal, unused⟩ := ih later
          refine ⟨name, isName, equal, fun used => unused ?_⟩
          exact (Source.NameSet.mem_insert _ _ _).2 (.inr used)

theorem isDirectlyIn_of_mem_assignedCopies
    {sources : List Path}
    {placement : Placement}
    {source target : Path}
    (member : (source, target) ∈ assignedCopies directory sources placement) :
    target.isDirectlyIn directory = true := by
  obtain ⟨name, isName, rfl, _⟩ := exists_name_of_mem_assignedCopies directory member
  exact isDirectlyIn_child isName.isFileName directory

/-- A copy is where its own name leads. -/
theorem child_targetName_of_mem_assignedCopies
    {sources : List Path}
    {placement : Placement}
    {source target : Path}
    (member : (source, target) ∈ assignedCopies directory sources placement) :
    directory.child (targetName target) = target := by
  obtain ⟨name, isName, rfl, _⟩ := exists_name_of_mem_assignedCopies directory member
  rw [isName.targetName_child]

/-- No two copies share a path. -/
theorem pairwise_assignedCopies
    (sources : List Path)
    (placement : Placement) :
    (assignedCopies directory sources placement).Pairwise
      fun first second => first.2.sameAs second.2 = false := by
  induction sources generalizing placement with
  | nil => exact .nil
  | cons first rest ih =>
      unfold assignedCopies
      split
      · exact ih placement
      · refine List.pairwise_cons.2 ⟨?_, ih _⟩
        rintro ⟨source, target⟩ later
        obtain ⟨name, isName, rfl, unused⟩ := exists_name_of_mem_assignedCopies directory later
        have nextIsName : IsFileName (placement.nextName first) :=
          (isTargetName_freeFileName first _).isFileName
        refine nextIsName.isPlainName.not_sameAs_child isName.isFileName.isPlainName
          (fun equal => ?_) _
        refine unused ((Source.NameSet.mem_insert _ _ _).2 (.inl ?_))
        rw [equal]

end

end Generation
end QuestMod
