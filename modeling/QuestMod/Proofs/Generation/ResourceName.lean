import QuestMod.Generation.Placement
import QuestMod.Proofs.Path.FileName
import QuestMod.Proofs.Path.Map
import QuestMod.Proofs.Source.NameSet

/-!
# Names of copied resources

A copy is named after an identifier that is no keyword, with a number and an extension in
lower case at most. Such a name is one component of a path, so the copy lies directly in
the resource directory whatever the source is called, and the name chosen for the copy is
the name it has already. Numbered names differ, so a copy never takes the name of another
one.
-/

namespace QuestMod
namespace Generation

open QuestMod.Path (IsFileName)
open Source (NameSet hasIdentifierForm_of_isIdentifier isIdentifier)

/-! ## Copies -/

/-- The name is an identifier that is no keyword, with an extension in lower case at
most. -/
inductive IsTargetName : String → Prop
  | plain
      {stem : String}
      (usable : isIdentifier stem = true) :
      IsTargetName stem
  | extended
      {stem extension : String}
      (usable : isIdentifier stem = true)
      (nonempty : extension.isEmpty = false)
      (lower : Text.foldCase extension = extension)
      (noDot : '.' ∉ extension.toList)
      (noSeparator : '/' ∉ extension.toList) :
      IsTargetName (stem ++ "." ++ extension)

/-- The wanted name of a copy is of that kind. -/
theorem isTargetName_targetName (source : Path) : IsTargetName (targetName source) := by
  have usable : isIdentifier (Source.usableIdentifier
      ((source.stem?.bind RawText.text?).getD "") "resource") = true :=
    Source.isIdentifier_usableIdentifier _ (by decide +kernel)
  unfold targetName
  dsimp only
  split
  · rename_i extension extended
    split
    · exact .plain usable
    · rename_i nonempty
      refine .extended usable ?_ (Text.foldCase_foldCase extension)
        (Text.not_mem_foldCase (by decide) (Path.noDot_of_extension? extended))
        (Text.not_mem_foldCase (by decide) (Path.noSeparator_of_extension? extended))
      rw [Bool.not_eq_true, String.isEmpty_eq_false_iff] at nonempty
      rw [String.isEmpty_eq_false_iff]
      intro empty
      have lengths := congrArg String.length empty
      rw [Text.length_foldCase] at lengths
      exact nonempty (String.length_eq_zero_iff.1 lengths)
  · exact .plain usable

/-- A number keeps a name of that kind. -/
theorem IsTargetName.numbered
    {wanted : String}
    (isName : IsTargetName wanted)
    (number : Nat) :
    IsTargetName (numberedFileName wanted number) := by
  cases number with
  | zero => exact isName
  | succ number =>
      cases isName with
      | plain usable =>
          have noDot := Source.dot_not_mem_of_identifierForm
            (hasIdentifierForm_of_isIdentifier usable)
          simp only [numberedFileName, Text.splitLastDot_of_not_mem noDot]
          exact .plain (Source.isIdentifier_underscoreNumber usable (number + 1))
      | extended usable nonempty lower noDot noSeparator =>
          simp only [numberedFileName, Text.splitLastDot_append noDot]
          exact .extended (Source.isIdentifier_underscoreNumber usable (number + 1)) nonempty lower
            noDot noSeparator

theorem IsTargetName.freeFileName
    {wanted : String}
    (isName : IsTargetName wanted)
    (used : NameSet) :
    IsTargetName (freeFileName wanted used) := by
  unfold Generation.freeFileName
  split
  · exact isName.numbered _
  · exact isName.numbered _

theorem IsTargetName.isFileName
    {name : String}
    (isName : IsTargetName name) :
    IsFileName name := by
  cases isName with
  | plain usable =>
      exact Path.isFileName_of_hasIdentifierForm (hasIdentifierForm_of_isIdentifier usable)
  | extended usable nonempty lower noDot noSeparator =>
      have stem := Path.isFileName_of_hasIdentifierForm (hasIdentifierForm_of_isIdentifier usable)
      exact (stem.append (by decide)).append noSeparator

/-- A copy of a copy would have the same name. -/
theorem IsTargetName.targetName_child
    {name : String}
    (isName : IsTargetName name)
    (directory : Path) :
    targetName (directory.child name) = name := by
  have named : (directory.child name).fileName? = some ↑name :=
    isName.isFileName.isPlainName.fileName?_child directory
  cases isName with
  | plain usable =>
      have noDot := Source.dot_not_mem_of_identifierForm (hasIdentifierForm_of_isIdentifier usable)
      rw [targetName, Path.stem?, Path.extension?, named, Option.map_some, Option.bind_some,
        Path.splitName_of_not_mem noDot, Option.bind_some, RawText.text?_ofText]
      exact Source.usableIdentifier_of_isIdentifier usable _
  | extended usable nonempty lower noDot noSeparator =>
      rename_i stem extension
      have stemFilled := Path.isEmpty_eq_false_of_isDottedName
        (hasIdentifierForm_of_isIdentifier usable).isDottedName
      rw [targetName, Path.stem?, Path.extension?, named, Option.map_some, Option.bind_some,
        Path.splitName_append stemFilled noDot, Option.bind_some, Option.bind_some,
        RawText.text?_ofText, RawText.text?_ofText]
      dsimp only
      rw [nonempty, lower, Option.getD_some, Source.usableIdentifier_of_isIdentifier usable]
      rfl

/-- The name of a copy, whichever names are used already. -/
theorem isTargetName_freeFileName (source : Path) (used : NameSet) :
    IsTargetName (freeFileName (targetName source) used) :=
  (isTargetName_targetName source).freeFileName used

/-! ## Free names -/

/-- Numbered file names differ by more than the case of letters. -/
theorem foldCase_numberedFileName_injective
    (wanted : String)
    (first second : Nat)
    (same : Text.foldCase (numberedFileName wanted first) =
      Text.foldCase (numberedFileName wanted second)) :
    first = second := by
  cases cut : Text.splitLastDot wanted with
  | none =>
      have plain : ∀ number, numberedFileName wanted number = Source.numbered wanted number := by
        intro number
        cases number with
        | zero => rfl
        | succ number => simp only [numberedFileName, cut, Source.numbered]
      rw [plain, plain] at same
      exact Source.foldCase_numbered_injective wanted first second same
  | some parts =>
      obtain ⟨stem, extension⟩ := parts
      have whole := congrArg String.length (Text.eq_of_splitLastDot cut).1
      have lengths := congrArg String.length same
      have mark : "_".length = 1 := rfl
      cases first with
      | zero =>
          cases second with
          | zero => rfl
          | succ second =>
              simp only [numberedFileName, cut, Text.length_foldCase, String.length_append]
                at lengths whole
              omega
      | succ first =>
          cases second with
          | zero =>
              simp only [numberedFileName, cut, Text.length_foldCase, String.length_append]
                at lengths whole
              omega
          | succ second =>
              simp only [numberedFileName, cut, Text.foldCase_append, Text.foldCase_toString]
                at same
              have regrouped :
                  (Text.foldCase stem ++ Text.foldCase "_") ++ toString (first + 1) ++
                      (Text.foldCase "." ++ Text.foldCase extension) =
                    (Text.foldCase stem ++ Text.foldCase "_") ++ toString (second + 1) ++
                      (Text.foldCase "." ++ Text.foldCase extension) := by
                simpa only [String.append_assoc] using same
              exact Text.toString_injective (Text.append_cancel regrouped)

/-- The free name has the least number that makes it differ from all used names by more than
the case of letters, and the number of used names bounds the search for it. -/
theorem freeFileName_is_least
    (wanted : String)
    (used : NameSet) :
    ∃ number ≤ used.size,
      freeFileName wanted used = numberedFileName wanted number ∧
        Text.foldCase (numberedFileName wanted number) ∉ used.names ∧
        ∀ smaller < number, Text.foldCase (numberedFileName wanted smaller) ∈ used.names := by
  obtain ⟨number, bounded, found, least⟩ :=
    used.exists_find?_unused (foldCase_numberedFileName_injective wanted)
  refine ⟨number, bounded, ?_, least⟩
  rw [freeFileName, found]

/-- A free name differs from all used names by more than the case of letters. -/
theorem foldCase_freeFileName_not_mem
    (wanted : String)
    (used : NameSet) :
    Text.foldCase (freeFileName wanted used) ∉ used.names := by
  obtain ⟨number, _, chosen, unused, _⟩ := freeFileName_is_least wanted used
  rw [chosen]
  exact unused

/-- Every copy lies directly in the resource directory. -/
theorem isDirectlyIn_child
    {name : String}
    (isName : IsFileName name)
    (directory : Path) :
    (directory.child name).isDirectlyIn directory = true := by
  rw [Path.isDirectlyIn_iff]
  exact ⟨.named name, nofun, isName.isPlainName.components_child directory⟩

/-! ## Copies in a directory -/

/-- The path is one that a resource may be copied to. -/
def IsCopyIn (directory target : Path) : Prop :=
  ∃ name, IsTargetName name ∧ target = directory.child name

section

variable {directory target other : Path}

/-- The name that a copy of a copy would have is the name of the file itself. -/
theorem IsCopyIn.fileName?_eq
    (isCopy : IsCopyIn directory target) :
    target.fileName? = some ↑(targetName target) := by
  obtain ⟨name, isName, rfl⟩ := isCopy
  rw [isName.targetName_child, isName.isFileName.isPlainName.fileName?_child]

theorem IsCopyIn.child_targetName
    (isCopy : IsCopyIn directory target) :
    directory.child (targetName target) = target := by
  obtain ⟨name, isName, rfl⟩ := isCopy
  rw [isName.targetName_child]

theorem IsCopyIn.eq_of_targetName_eq
    (isCopy : IsCopyIn directory target)
    (otherIsCopy : IsCopyIn directory other)
    (same : targetName target = targetName other) :
    target = other := by
  rw [← isCopy.child_targetName, same, otherIsCopy.child_targetName]

/-- Copies with the same components are written alike. -/
theorem IsCopyIn.sameAs_iff
    (isCopy : IsCopyIn directory target)
    (otherIsCopy : IsCopyIn directory other) :
    target.sameAs other = true ↔ target = other := by
  constructor
  · intro same
    refine isCopy.eq_of_targetName_eq otherIsCopy
      (RawText.ofText_injective (Option.some.inj ?_))
    rw [← isCopy.fileName?_eq, ← otherIsCopy.fileName?_eq, Path.fileName?, Path.fileName?,
      Path.sameAs_iff.1 same]
  · rintro rfl
    exact Path.sameAs_refl target

end

end Generation
end QuestMod
