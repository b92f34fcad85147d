import QuestMod.Text.Escape
import QuestMod.Proofs.Text.Split

/-!
# Escaped text

The body of a string literal is put together from the bodies of its characters. The
body of a comment is one line, and markup never adds a line break. Trimming only drops
characters.
-/

namespace QuestMod
namespace Text

/-! ## String literals -/

theorem replaceCharacter_append
    (target : Char)
    (replacement first second : List Char) :
    replaceCharacter target replacement (first ++ second) =
      replaceCharacter target replacement first ++
        replaceCharacter target replacement second := by
  simp [replaceCharacter]

/-- A literal body is put together from the bodies of the parts of its text. -/
theorem literalBody_append (first second : List Char) :
    literalBody (first ++ second) = literalBody first ++ literalBody second := by
  simp only [literalBody, replaceCharacter_append]

/-- How the body of a string literal writes one character. -/
def literalCharacter : Char → List Char
  | '\\' => ['\\', '\\']
  | '"' => ['\\', '"']
  | '\r' => ['\\', 'r']
  | '\n' => ['\\', 'n']
  | c => [c]

/-- Four passes over one character write it as one substitution does: no pass meets an escape
of an earlier one. -/
theorem literalBody_singleton (c : Char) : literalBody [c] = literalCharacter c := by
  unfold literalCharacter
  split
  case h_5 notBackslash notQuote notReturn notNewline =>
    have kept : c ≠ '\\' ∧ c ≠ '"' ∧ c ≠ '\r' ∧ c ≠ '\n' :=
      ⟨notBackslash, notQuote, notReturn, notNewline⟩
    simp [literalBody, replaceCharacter, kept]
  all_goals rfl

theorem literalBody_cons (c : Char) (rest : List Char) :
    literalBody (c :: rest) = literalCharacter c ++ literalBody rest := by
  rw [← literalBody_singleton, ← literalBody_append, List.singleton_append]

/-- Four passes over a text write it as one substitution for each character does. -/
theorem literalBody_eq_flatMap (characters : List Char) :
    literalBody characters = characters.flatMap literalCharacter := by
  induction characters with
  | nil => rfl
  | cons c rest ih => rw [literalBody_cons, ih, List.flatMap_cons]

theorem toList_literal (text : String) :
    (literal text).toList = text.toList.flatMap literalCharacter := by
  rw [literal, String.toList_ofList, literalBody_eq_flatMap]

theorem literal_append (first second : String) :
    literal (first ++ second) = literal first ++ literal second := by
  apply String.toList_injective
  simp only [toList_literal, String.toList_append, List.flatMap_append]

/-- A character is written as an escape of two characters, or stands for itself: then it
neither escapes nor ends anything. -/
theorem literalCharacter_cases (c : Char) :
    (∃ mark, literalCharacter c = ['\\', mark]) ∨
      (literalCharacter c = [c] ∧ c ≠ '\\' ∧ c ≠ '"' ∧ c ≠ '\r' ∧ c ≠ '\n') := by
  unfold literalCharacter
  split
  case h_5 notBackslash notQuote notReturn notNewline =>
    exact .inr ⟨rfl, notBackslash, notQuote, notReturn, notNewline⟩
  all_goals exact .inl ⟨_, rfl⟩

/-! ## Comments and markup -/

/-- A comment body is one line. -/
theorem newline_not_mem_commentBody (text : String) : '\n' ∉ (commentBody text).toList := by
  rw [commentBody, String.toList_ofList, List.mem_map]
  rintro ⟨c, _, equal⟩
  split at equal
  · cases equal
  · rename_i noBreak
    exact noBreak (.inl equal)

theorem newline_not_mem_markupCharacter
    {c : Char}
    (notNewline : c ≠ '\n') :
    '\n' ∉ markupCharacter c := by
  unfold markupCharacter
  split
  all_goals first | decide | simpa using Ne.symm notNewline

/-- Markup of one line is one line. -/
theorem newline_not_mem_markup
    {text : String}
    (absent : '\n' ∉ text.toList) :
    '\n' ∉ (markup text).toList := by
  rw [markup, String.toList_ofList, List.mem_flatMap]
  rintro ⟨c, member, inside⟩
  have notNewline : c ≠ '\n' := by
    rintro rfl
    exact absent member
  exact newline_not_mem_markupCharacter notNewline inside

/-! ## Trimming -/

/-- Trimming adds no character. -/
theorem mem_of_mem_trim
    {text : String}
    {c : Char}
    (member : c ∈ (trim text).toList) :
    c ∈ text.toList := by
  rw [trim, String.toList_ofList, trimBack, List.mem_reverse] at member
  have inFront := List.mem_reverse.1 ((List.dropWhile_sublist _).subset member)
  exact (List.dropWhile_sublist _).subset inFront

theorem nonBlank?_eq_some
    {name used : String}
    (nonBlank : nonBlank? name = some used) :
    used = trim name := by
  unfold nonBlank? at nonBlank
  split at nonBlank
  · cases nonBlank
  · exact (Option.some.inj nonBlank).symm

theorem nonBlank?_of_blank
    {name : String}
    (blank : isBlankText name = true) :
    nonBlank? name = none :=
  if_pos blank

theorem nonBlank?_of_shown
    {name : String}
    (shown : isBlankText name = false) :
    nonBlank? name = some (trim name) :=
  if_neg (by simp [shown])

theorem isBlankText_append (first second : String) :
    isBlankText (first ++ second) = (isBlankText first && isBlankText second) := by
  rw [isBlankText, String.toList_append, List.all_append]
  rfl

theorem trimFront_of_all_isBlank
    {characters : List Char}
    (blank : characters.all isBlank = true) :
    trimFront characters = [] := by
  induction characters with
  | nil => rfl
  | cons c rest ih =>
      rw [List.all_cons, Bool.and_eq_true] at blank
      rw [trimFront, List.dropWhile_cons_of_pos blank.1]
      exact ih blank.2

/-- A blank text is trimmed to nothing. -/
theorem trim_of_isBlankText
    {text : String}
    (blank : isBlankText text = true) :
    trim text = "" := by
  rw [trim, trimFront_of_all_isBlank blank]
  rfl

/-- A text with a character left behind trimming is not blank. -/
theorem isBlankText_eq_false_of_mem_trim
    {text : String}
    {c : Char}
    (member : c ∈ (trim text).toList) :
    isBlankText text = false := by
  rw [Bool.eq_false_iff]
  intro blank
  rw [trim_of_isBlankText blank] at member
  cases member

end Text
end QuestMod
