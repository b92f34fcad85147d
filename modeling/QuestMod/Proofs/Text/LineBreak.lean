import QuestMod.Proofs.Text.Escape

/-!
# Characters that end a line

Five characters end a line of source. The escapes of literals and comments know the line
feed and the carriage return, and let the three others pass. Markup lets all five pass.
-/

namespace QuestMod
namespace Text

/-- The characters beyond ASCII that end a line: next line, line separator and paragraph
separator. -/
def unicodeBreaks : List Char := ['\u0085', '\u2028', '\u2029']

/-- The characters that end a line of source. -/
def lineBreaks : List Char := '\n' :: '\r' :: unicodeBreaks

/-- The character occurs in the text. -/
def Occurs (c : Char) (text : String) : Prop := c ∈ text.toList

/-- The character occurs in the text and has no escape. -/
def Passes (c : Char) (text : String) : Prop := c ∈ unicodeBreaks ∧ Occurs c text

/-- No character of the text ends a line. -/
def IsOneLine (text : String) : Prop := ∀ c ∈ lineBreaks, ¬ Occurs c text

theorem occurs_ofList
    {c : Char}
    {characters : List Char} :
    Occurs c (String.ofList characters) ↔ c ∈ characters := by
  rw [Occurs, String.toList_ofList]

@[simp] theorem occurs_append
    {c : Char}
    {first second : String} :
    Occurs c (first ++ second) ↔ Occurs c first ∨ Occurs c second := by
  rw [Occurs, String.toList_append, List.mem_append]
  rfl

theorem occurs_join
    {c : Char}
    (texts : List String) :
    Occurs c (String.join texts) ↔ ∃ text ∈ texts, Occurs c text := by
  induction texts with
  | nil => simp [Occurs]
  | cons first rest ih =>
      rw [String.join_cons, occurs_append, ih]
      simp

/-- A character occurs in joined texts when it occurs in one of them, or between two
of them. -/
theorem occurs_intercalate
    {c : Char}
    {separator : String}
    (absent : ¬ Occurs c separator)
    {α : Type}
    (items : List α)
    (textOf : α → String) :
    Occurs c (separator.intercalate (items.map textOf)) ↔
      ∃ item ∈ items, Occurs c (textOf item) := by
  induction items with
  | nil => simp [Occurs]
  | cons first rest ih =>
      cases rest with
      | nil => simp
      | cons second others =>
          rw [List.map_cons] at ih
          rw [List.map_cons, List.map_cons, String.intercalate_cons_cons, occurs_append,
            occurs_append, ih]
          simp [absent]

section

variable {c : Char} (isBreak : c ∈ lineBreaks)

include isBreak

/-- A fixed text without line ends holds none of them. -/
theorem not_occurs_fixed
    {characters : List Char}
    (oneLine : characters.all (fun d => !lineBreaks.contains d) = true) :
    ¬ Occurs c (no_index (String.ofList characters)) := by
  rw [occurs_ofList]
  intro member
  have other := List.all_eq_true.1 oneLine c member
  simp [isBreak] at other

theorem not_passes_fixed
    {characters : List Char}
    (oneLine : characters.all (fun d => !lineBreaks.contains d) = true) :
    ¬ Passes c (no_index (String.ofList characters)) :=
  fun passes => not_occurs_fixed isBreak oneLine passes.2

/-! ## Escapes -/

/-- What the escapes of literals and comments know are the two line ends in ASCII. -/
theorem mem_unicodeBreaks_iff : c ∈ unicodeBreaks ↔ c ≠ '\n' ∧ c ≠ '\r' := by
  constructor
  · rintro unicode
    constructor
    · rintro rfl
      exact absurd unicode (by decide)
    · rintro rfl
      exact absurd unicode (by decide)
  · rintro ⟨notNewline, notReturn⟩
    simpa [lineBreaks, notNewline, notReturn] using isBreak

/-- The body of a comment holds the line ends without an escape. -/
theorem occurs_commentBody (text : String) :
    Occurs c (commentBody text) ↔ Passes c text := by
  rw [commentBody, occurs_ofList, List.mem_map, Passes, mem_unicodeBreaks_iff isBreak]
  constructor
  · rintro ⟨d, member, written⟩
    split at written
    · subst written
      exact absurd isBreak (by decide)
    · rename_i unescaped
      subst written
      exact ⟨not_or.1 unescaped, member⟩
  · rintro ⟨unescaped, member⟩
    refine ⟨c, member, ?_⟩
    rw [if_neg (not_or.2 unescaped)]

theorem mem_literalCharacter (d : Char) :
    c ∈ literalCharacter d ↔ c ∈ unicodeBreaks ∧ c = d := by
  unfold literalCharacter
  split
  case h_5 notBackslash notQuote notReturn notNewline =>
    rw [List.mem_singleton, mem_unicodeBreaks_iff isBreak]
    constructor
    · rintro rfl
      exact ⟨⟨notNewline, notReturn⟩, rfl⟩
    · exact And.right
  all_goals
    -- An escape consists of a backslash and a character that ends no line.
    apply iff_of_false
    · intro member
      rcases List.mem_cons.1 member with rfl | member
      · exact absurd isBreak (by decide)
      · rw [List.mem_singleton.1 member] at isBreak
        exact absurd isBreak (by decide)
    · rintro ⟨unicode, rfl⟩
      exact absurd unicode (by decide)

/-- The body of a literal holds the line ends without an escape. -/
theorem occurs_literal (text : String) : Occurs c (literal text) ↔ Passes c text := by
  rw [literal, occurs_ofList, Passes, Occurs]
  induction text.toList with
  | nil => simp [literalBody, replaceCharacter]
  | cons d rest ih =>
      rw [literalBody_cons, List.mem_append, ih, mem_literalCharacter isBreak,
        List.mem_cons, and_or_left]

/-- Markup writes every line end as it is. -/
theorem occurs_markup (text : String) : Occurs c (markup text) ↔ Occurs c text := by
  have unchanged : ∀ d, c ∈ markupCharacter d ↔ c = d := by
    intro d
    unfold markupCharacter
    split
    case h_6 => exact List.mem_singleton
    all_goals
      constructor
      · exact fun member => absurd member (not_occurs_fixed isBreak (by decide))
      · rintro rfl
        exact absurd isBreak (by decide)
  rw [markup, occurs_ofList, List.mem_flatMap]
  simp [unchanged, Occurs]

end

end Text
end QuestMod
