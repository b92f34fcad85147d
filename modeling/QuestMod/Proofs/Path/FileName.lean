import QuestMod.Source.ClassFile
import QuestMod.Proofs.Path.Component
import QuestMod.Proofs.Source.Identifier

/-!
# Names of files

Generated files are named after identifiers and dotted names. Such a name is one
component of a path, and what stands behind its last dot is its extension. The name of
any file is one component, so neither it nor its extension holds a separator.
-/

namespace QuestMod
namespace Path

open Source (HasIdentifierForm IsDottedName)

/-- A dotted name is one component of a path. -/
theorem isPlainName_of_isDottedName
    {name : String}
    (dotted : IsDottedName name) :
    IsPlainName name where
  nonempty empty := by
    rw [IsDottedName, empty] at dotted
    cases dotted [] List.mem_cons_self
  notDot dot := by
    rw [IsDottedName, dot] at dotted
    cases dotted [] List.mem_cons_self
  notDots dots := by
    rw [IsDottedName, dots] at dotted
    cases dotted [] List.mem_cons_self
  noSeparator member := by
    rcases dotted.mem member with equal | continued
    · cases equal
    · revert continued
      decide

theorem bytes_dotted (stem extension : String) :
    (RawText.ofText (stem ++ "." ++ extension)).bytes =
      (RawText.ofText stem).bytes ++ dot :: (RawText.ofText extension).bytes := by
  rw [RawText.bytes_append, RawText.bytes_append, List.append_assoc]
  rfl

/-- A name is cut at its last dot, unless nothing stands in front of it. -/
theorem splitName_append
    {stem extension : String}
    (nonempty : stem.isEmpty = false)
    (absent : '.' ∉ extension.toList) :
    splitName (stem ++ "." ++ extension : String) = (↑stem, some ↑extension) := by
  have filled : (RawText.ofText stem).bytes.isEmpty = false := by
    rw [List.isEmpty_eq_false_iff]
    apply bytes_ne_of_toList_ne stem ""
    intro empty
    rw [String.toList_inj.1 empty] at nonempty
    cases nonempty
  have noDot : dot ∉ (RawText.ofText extension).bytes :=
    fun member => absent ((dot_mem_bytes_iff extension).1 member)
  rw [splitName, bytes_dotted, Text.splitLast_append noDot]
  dsimp only
  rw [filled]
  rfl

/-- A name without a dot has no extension. -/
theorem splitName_of_not_mem
    {name : String}
    (absent : '.' ∉ name.toList) :
    splitName name = (↑name, none) := by
  rw [splitName, Text.splitLast_of_not_mem fun member =>
    absent ((dot_mem_bytes_iff name).1 member)]

/-- The extension of a path whose last component is a name with a dot. -/
theorem extension?_child
    {base : Path}
    {stem extension : String}
    (plain : IsPlainName (stem ++ "." ++ extension))
    (nonempty : stem.isEmpty = false)
    (absent : '.' ∉ extension.toList) :
    (base.child (stem ++ "." ++ extension)).extension? = some ↑extension := by
  rw [extension?, plain.fileName?_child, Option.bind_some, splitName_append nonempty absent]

theorem isEmpty_eq_false_of_isDottedName
    {name : String}
    (dotted : IsDottedName name) :
    name.isEmpty = false := by
  rw [String.isEmpty_eq_false_iff]
  rintro rfl
  exact (isPlainName_of_isDottedName dotted).nonempty rfl

/-- A dotted name with an identifier as its extension is one component of a path. -/
theorem isPlainName_withExtension
    {name extension : String}
    (dotted : IsDottedName name)
    (form : HasIdentifierForm extension) :
    IsPlainName (name ++ "." ++ extension) := by
  have joined : name ++ "." ++ extension = name ++ String.ofList ('.' :: extension.toList) := by
    rw [← String.toList_inj]
    simp
  rw [joined]
  exact isPlainName_of_isDottedName (dotted.below form)

/-- The extension of a file that is named after a dotted name. -/
theorem extension?_child_of_isDottedName
    {name extension : String}
    (dotted : IsDottedName name)
    (form : HasIdentifierForm extension)
    (base : Path) :
    (base.child (name ++ "." ++ extension)).extension? = some ↑extension :=
  extension?_child (isPlainName_withExtension dotted form)
    (isEmpty_eq_false_of_isDottedName dotted) (Source.dot_not_mem_of_identifierForm form)

/-! ## Names of components -/

theorem noSeparator_of_fileName?
    {path : Path}
    {name : RawText}
    (named : path.fileName? = some name) :
    separator ∉ name.bytes := by
  unfold fileName? at named
  split at named
  · rename_i found last
    cases named
    obtain ⟨piece, inSplit, rfl⟩ := piece_of_named (List.mem_of_getLast? last)
    exact Text.not_mem_of_mem_splitAt inSplit
  · cases named

/-- An extension is the end of a file name, behind its last dot. -/
theorem exists_fileName_of_extension?
    {path : Path}
    {extension : RawText}
    (extended : path.extension? = some extension) :
    ∃ name stem, path.fileName? = some name ∧ name.bytes = stem ++ dot :: extension.bytes ∧
      dot ∉ extension.bytes := by
  obtain ⟨name, named, splits⟩ := Option.bind_eq_some_iff.1 extended
  unfold splitName at splits
  split at splits
  · rename_i stem found cut
    split at splits
    · cases splits
    · cases splits
      obtain ⟨whole, absent⟩ := Text.eq_of_splitLast cut
      exact ⟨name, stem, named, whole, absent⟩
  · cases splits

/-- An extension that is a text holds no dot. -/
theorem noDot_of_extension?
    {path : Path}
    {extension : String}
    (extended : path.extension?.bind RawText.text? = some extension) :
    '.' ∉ extension.toList := by
  obtain ⟨_, _, _, _, absent⟩ :=
    exists_fileName_of_extension? (RawText.bind_text?_eq_some_iff.1 extended)
  rwa [dot_mem_bytes_iff] at absent

/-- An extension that is a text holds no separator. -/
theorem noSeparator_of_extension?
    {path : Path}
    {extension : String}
    (extended : path.extension?.bind RawText.text? = some extension) :
    '/' ∉ extension.toList := by
  obtain ⟨name, stem, named, whole, _⟩ :=
    exists_fileName_of_extension? (RawText.bind_text?_eq_some_iff.1 extended)
  have absent := noSeparator_of_fileName? named
  rw [← separator_mem_bytes_iff]
  intro member
  exact absent (by simp [whole, member])

/-! ## File names -/

/-- The text is one component of a path and does not start with a dot. -/
def IsFileName (name : String) : Prop :=
  ∃ c rest, name.toList = c :: rest ∧ c ≠ '.' ∧ '/' ∉ c :: rest

theorem IsFileName.isPlainName
    {name : String}
    (isName : IsFileName name) :
    IsPlainName name := by
  obtain ⟨c, rest, equal, notDot, absent⟩ := isName
  constructor
  · simp [equal]
  · simp [equal, notDot]
  · simp [equal, notDot]
  · rwa [equal]

/-- A file name goes on with any text without separators. -/
theorem IsFileName.append
    {name text : String}
    (isName : IsFileName name)
    (absent : '/' ∉ text.toList) :
    IsFileName (name ++ text) := by
  obtain ⟨c, rest, equal, notDot, noSeparator⟩ := isName
  refine ⟨c, rest ++ text.toList, ?_, notDot, ?_⟩
  · rw [String.toList_append, equal, List.cons_append]
  · rw [← List.cons_append, List.mem_append, not_or]
    exact ⟨noSeparator, absent⟩

theorem isFileName_of_hasIdentifierForm
    {name : String}
    (form : Source.HasIdentifierForm name) :
    IsFileName name := by
  have plain := isPlainName_of_isDottedName form.isDottedName
  obtain ⟨c, rest, equal⟩ := List.exists_cons_of_ne_nil plain.nonempty
  refine ⟨c, rest, equal, ?_, ?_⟩
  · rintro rfl
    exact Source.dot_not_mem_of_identifierForm form (by simp [equal])
  · rw [← equal]
    exact plain.noSeparator

/-! ## Class files -/

theorem hasIdentifierForm_sourceExtension : HasIdentifierForm Source.sourceExtension :=
  Source.hasIdentifierForm_ofList (by decide)

/-- The name of a class file is one component of a path. -/
theorem isPlainName_sourceFileName
    {className : String}
    (form : HasIdentifierForm className) :
    IsPlainName (Source.sourceFileName className) :=
  isPlainName_withExtension form.isDottedName hasIdentifierForm_sourceExtension

end Path
end QuestMod
