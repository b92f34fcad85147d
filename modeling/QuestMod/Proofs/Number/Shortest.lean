import QuestMod.Number.Shortest

/-!
# Characters of number texts

The text of a number consists of digits, a sign, a decimal point and the letters of the
texts for infinite and undefined values.
-/

namespace QuestMod
namespace Number

/-- The characters of number texts that are no digits. -/
def numberMarks : List Char := ['-', '.', 'i', 'n', 'f', 'N', 'a']

/-- The character may stand in the text of a number. -/
def IsNumberCharacter (c : Char) : Prop := c.isDigit = true ∨ c ∈ numberMarks

theorem isNumberCharacter_zero : IsNumberCharacter '0' := .inl rfl

theorem isNumberCharacter_dot : IsNumberCharacter '.' := .inr (by decide)

theorem isNumberCharacter_of_mem_decimalDigits
    {number : Nat}
    {c : Char}
    (member : c ∈ decimalDigits number) :
    IsNumberCharacter c :=
  .inl (Nat.isDigit_of_mem_toDigits (by decide) (by decide) member)

/-- A number in positional notation is made of digits and marks. -/
theorem isNumberCharacter_of_mem_positional
    {decimal : Decimal}
    {c : Char}
    (member : c ∈ decimal.positional) :
    IsNumberCharacter c := by
  unfold Decimal.positional at member
  dsimp only at member
  split at member
  · rcases List.mem_append.1 member with inDigits | inZeros
    · exact isNumberCharacter_of_mem_decimalDigits inDigits
    · rw [List.eq_of_mem_replicate inZeros]
      exact isNumberCharacter_zero
  · split at member
    · simp only [List.mem_append, List.mem_cons, List.not_mem_nil, or_false] at member
      rcases member with ((rfl | rfl) | inZeros) | inDigits
      · exact isNumberCharacter_zero
      · exact isNumberCharacter_dot
      · rw [List.eq_of_mem_replicate inZeros]
        exact isNumberCharacter_zero
      · exact isNumberCharacter_of_mem_decimalDigits inDigits
    · simp only [List.mem_append, List.mem_cons] at member
      rcases member with inWhole | rfl | inFraction
      · exact isNumberCharacter_of_mem_decimalDigits (List.mem_of_mem_take inWhole)
      · exact isNumberCharacter_dot
      · exact isNumberCharacter_of_mem_decimalDigits (List.mem_of_mem_drop inFraction)

namespace Single

/-- What is printed of a number besides its sign is made of digits and marks. -/
theorem isNumberCharacter_of_mem_unsignedText
    {value : Single}
    {c : Char}
    (member : c ∈ value.unsignedText) :
    IsNumberCharacter c := by
  unfold unsignedText at member
  split at member
  · have marks : ['i', 'n', 'f'] ⊆ numberMarks := by decide
    exact .inr (marks member)
  · rw [List.mem_singleton.1 member]
    exact isNumberCharacter_zero
  · exact isNumberCharacter_of_mem_positional member

/-- Infinite and undefined numbers have such texts, too. -/
theorem isNumberCharacter_of_mem_toText
    {value : Single}
    {c : Char}
    (member : c ∈ value.toText.toList) :
    IsNumberCharacter c := by
  unfold toText at member
  split at member
  · have marks : "NaN".toList ⊆ numberMarks := by decide
    exact .inr (marks member)
  · rw [String.toList_ofList] at member
    split at member
    · rcases List.mem_cons.1 member with rfl | inText
      · exact .inr (by decide)
      · exact isNumberCharacter_of_mem_unsignedText inText
    · exact isNumberCharacter_of_mem_unsignedText member

end Single
end Number
end QuestMod
