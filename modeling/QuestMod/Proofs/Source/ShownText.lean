import QuestMod.Proofs.Source.ClassFile
import QuestMod.Proofs.Source.LineBreak

/-!
# Line ends in the parts that class files share

Identifiers, numbers and the fixed texts of the generator hold no line end. What a class
file shows besides its members are the identifier and the title of a blueprint part and
the trimmed lines of its description.
-/

namespace QuestMod
namespace Source

open Text (IsOneLine Occurs Passes lineBreaks occurs_append not_occurs_fixed)

/-! ## Texts of one line -/

/-- A fixed text without line ends is one line. -/
theorem isOneLine_ofList
    {characters : List Char}
    (oneLine : characters.all (fun d => !lineBreaks.contains d) = true) :
    IsOneLine (String.ofList characters) :=
  fun _ isBreak => not_occurs_fixed isBreak oneLine

/-- Two texts of one line make one line. -/
theorem isOneLine_append
    {first second : String}
    (firstLine : IsOneLine first)
    (secondLine : IsOneLine second) :
    IsOneLine (first ++ second) := by
  intro c isBreak
  rw [occurs_append, not_or]
  exact ⟨firstLine c isBreak, secondLine c isBreak⟩

/-- Texts of one line with commas between them are one line. -/
theorem isOneLine_commaList
    {texts : List String}
    (lines : ∀ text ∈ texts, IsOneLine text) :
    IsOneLine (", ".intercalate texts) := by
  intro c isBreak
  rw [← List.map_id texts, Text.occurs_intercalate (not_occurs_fixed isBreak (by decide))]
  rintro ⟨text, member, occurs⟩
  exact lines text member c isBreak occurs

/-- Trimming a text of one line leaves one line. -/
theorem isOneLine_trim
    {text : String}
    (oneLine : IsOneLine text) :
    IsOneLine (Text.trim text) :=
  fun c isBreak occurs => oneLine c isBreak (Text.mem_of_mem_trim occurs)

/-- No line end is a character of an identifier. -/
theorem continuesIdentifier_eq_false_of_isBreak
    {c : Char}
    (isBreak : c ∈ lineBreaks) :
    Text.continuesIdentifier c = false := by
  have apart : lineBreaks.all (fun d => !Text.continuesIdentifier d) = true := by
    decide +kernel
  simpa using List.all_eq_true.1 apart c isBreak

theorem isOneLine_of_continuesIdentifier
    {text : String}
    (continued : ∀ c ∈ text.toList, Text.continuesIdentifier c = true) :
    IsOneLine text := by
  intro c isBreak member
  have other := continuesIdentifier_eq_false_of_isBreak isBreak
  rw [continued c member] at other
  cases other

/-- An identifier is one line. -/
theorem HasIdentifierForm.isOneLine
    {name : String}
    (form : HasIdentifierForm name) :
    IsOneLine name :=
  isOneLine_of_continuesIdentifier fun _ member => continuesIdentifier_of_mem form member

/-- A dotted name is one line. -/
theorem IsDottedName.isOneLine
    {name : String}
    (dotted : IsDottedName name) :
    IsOneLine name := by
  intro c isBreak member
  rcases dotted.mem member with rfl | continued
  · exact absurd isBreak (by decide)
  · rw [continuesIdentifier_eq_false_of_isBreak isBreak] at continued
    cases continued

theorem isOneLine_repr (number : Nat) : IsOneLine number.repr :=
  isOneLine_of_continuesIdentifier fun _ member => continuesIdentifier_of_mem_toString member

/-- An integer is one line, with or without a sign. -/
theorem isOneLine_toString_int (number : Int) : IsOneLine (toString number) := by
  cases number with
  | ofNat number => exact isOneLine_repr number
  | negSucc number =>
      have signed : toString (Int.negSucc number) = "-" ++ (number + 1).repr := rfl
      rw [signed]
      exact isOneLine_append (isOneLine_ofList (by decide)) (isOneLine_repr (number + 1))

/-- A single-precision number is one line. -/
theorem isOneLine_singleText (value : Number.Single) : IsOneLine value.toText := by
  have apart : Number.numberMarks.all (fun mark => !lineBreaks.contains mark) = true := by decide
  intro c isBreak member
  rcases Number.Single.isNumberCharacter_of_mem_toText member with digit | mark
  · have continued := continuesIdentifier_of_isDigit digit
    rw [continuesIdentifier_eq_false_of_isBreak isBreak] at continued
    cases continued
  · have other := List.all_eq_true.1 apart c mark
    simp [isBreak] at other

theorem isOneLine_singleLiteral (value : Number.Single) : IsOneLine (singleLiteral value) :=
  isOneLine_append (isOneLine_singleText value) (isOneLine_ofList (by decide))

theorem isOneLine_boolLiteral (value : Bool) : IsOneLine (boolLiteral value) := by
  cases value <;> exact isOneLine_ofList (by decide)

/-! ## Blocks -/

section

variable {c : Char} (isBreak : c ∈ lineBreaks)

include isBreak

theorem shows_blockClosedBy (header : String) (body : List Step) (suffix : String) :
    Shows c (blockClosedBy header body suffix) ↔
      Occurs c header ∨ Shows c body ∨ Occurs c suffix := by
  simp (disch := decide) [blockClosedBy, Step.shown, not_occurs_fixed isBreak]

/-- A block shows what its header and its body show. -/
theorem shows_block (header : String) (body : List Step) :
    Shows c (block header body) ↔ Occurs c header ∨ Shows c body := by
  have noSuffix : ¬ Occurs c "" := not_occurs_fixed isBreak rfl
  exact (shows_blockClosedBy isBreak header body "").trans (by simp [noSuffix])

end

/-! ## Class files -/

section

variable {c : Char} (isBreak : c ∈ lineBreaks)

include isBreak

/-- The header comment shows the line ends in an identifier that have no escape. -/
theorem shows_classHeader
    {kind : String}
    (oneLine : IsOneLine kind)
    (id : String) :
    Shows c (classHeader kind id) ↔ Passes c id := by
  simp (disch := decide) [classHeader, headerComment, generatorVersion, Step.shown,
    not_occurs_fixed isBreak, oneLine c isBreak, Text.occurs_commentBody isBreak]

/-- The documentation comment escapes the line ends of the title, and shows those of the
description that are left in its trimmed lines. -/
theorem shows_summary (title description : String) :
    Shows c (summary title description) ↔
      Passes c title ∨ ∃ line ∈ Text.lines description, Occurs c (Text.trim line) := by
  have described : (∃ line ∈ (Text.lines description).filter fun line => !Text.isBlankText line,
      Occurs c (Text.trim line)) ↔ ∃ line ∈ Text.lines description, Occurs c (Text.trim line) := by
    constructor
    · rintro ⟨line, member, occurs⟩
      exact ⟨line, (List.mem_filter.1 member).1, occurs⟩
    · rintro ⟨line, member, occurs⟩
      refine ⟨line, List.mem_filter.2 ⟨member, ?_⟩, occurs⟩
      rw [Text.isBlankText_eq_false_of_mem_trim occurs]
      rfl
  rw [← described]
  simp (disch := decide) only [summary, shows_cons, shows_append, shows_mapLine, Step.shown,
    occurs_append, not_occurs_fixed isBreak, Text.occurs_commentBody isBreak,
    Text.occurs_markup isBreak, shows_nil, false_or, or_false]

omit isBreak in
theorem isOneLine_of_mem_usedNamespaces
    {names : List String}
    (oneLine : ∀ name ∈ names, IsOneLine name) :
    ∀ space ∈ (usedNamespaces names).sorted, IsOneLine space := by
  intro space member
  obtain ⟨name, inNames, rfl⟩ := exists_eq_trim_of_mem_usedNamespaces member
  exact isOneLine_trim (oneLine name inNames)

/-- Using directives of names on one line show no line end. -/
theorem not_shows_usingSteps
    {names : List String}
    (oneLine : ∀ name ∈ names, IsOneLine name) :
    ¬ Shows c (usingSteps names) := by
  rw [usingSteps, shows_mapLine]
  rintro ⟨space, member, occurs⟩
  have spaceLine := isOneLine_of_mem_usedNamespaces oneLine space member
  simp (disch := decide) [not_occurs_fixed isBreak, spaceLine c isBreak] at occurs

/-- A class file shows what its documentation and its body show, and what its header
tells of its origin. -/
theorem shows_classSteps
    {usings : List String}
    {space declaration : String}
    (header documentation body : List Step)
    (usingLines : ∀ name ∈ usings, IsOneLine name)
    (spaceLine : IsOneLine space)
    (declarationLine : IsOneLine declaration) :
    Shows c (classSteps header usings space documentation declaration body) ↔
      Shows c header ∨ Shows c documentation ∨ Shows c body := by
  simp (disch := decide) [classSteps, not_shows_usingSteps isBreak usingLines,
    shows_block isBreak, not_occurs_fixed isBreak, spaceLine c isBreak,
    declarationLine c isBreak, Step.shown]

end

end Source
end QuestMod
