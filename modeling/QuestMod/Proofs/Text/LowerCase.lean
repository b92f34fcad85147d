import QuestMod.Text.Blank

/-!
# Lower case

A text is lowered character by character, so its length and its parts are kept. Decimal
digits have no case, and different numbers have different digits.
-/

namespace QuestMod
namespace Text

@[simp] theorem toList_foldCase (text : String) :
    (foldCase text).toList = text.toList.map Char.toLower := by
  rw [foldCase, String.toList_ofList]

@[simp] theorem foldCase_append (first second : String) :
    foldCase (first ++ second) = foldCase first ++ foldCase second := by
  apply String.toList_injective
  simp

/-- Folding changes no length. -/
@[simp] theorem length_foldCase (text : String) : (foldCase text).length = text.length := by
  rw [← String.length_toList, toList_foldCase, List.length_map, String.length_toList]

/-- A character is lowered to itself or from a capital to a small letter. -/
theorem toLower_cases (c : Char) :
    c.toLower = c ∨ (65 ≤ c.toNat ∧ c.toNat ≤ 90 ∧ c.toLower.toNat = c.toNat + 32) := by
  unfold Char.toLower
  split
  · rename_i upper
    have first : 65 ≤ c.toNat := UInt32.le_iff_toNat_le.1 upper.1
    have last : c.toNat ≤ 90 := UInt32.le_iff_toNat_le.1 upper.2
    refine .inr ⟨first, last, ?_⟩
    have shift : ('a'.val - 'A'.val).toNat = 32 := rfl
    show (c.val + ('a'.val - 'A'.val)).toNat = c.val.toNat + 32
    rw [UInt32.toNat_add, shift]
    rw [Char.toNat] at last
    omega
  · exact .inl rfl

theorem toLower_of_isDigit
    {c : Char}
    (digit : c.isDigit = true) :
    c.toLower = c := by
  have last : c.toNat ≤ 57 := (Char.isDigit_iff_toNat.1 digit).2
  refine (toLower_cases c).resolve_right fun capital => ?_
  omega

@[simp] theorem toLower_toLower (c : Char) : c.toLower.toLower = c.toLower := by
  rcases toLower_cases c.toLower with same | again
  · exact same
  · rcases toLower_cases c with same | once
    · rw [same, same]
    · omega

/-- A folded text is not changed by folding it again. -/
@[simp] theorem foldCase_foldCase (text : String) : foldCase (foldCase text) = foldCase text := by
  apply String.toList_injective
  simp

/-- Lowering a text brings in small letters only. -/
theorem not_mem_foldCase
    {c : Char}
    (noLetter : c.toNat < 97)
    {text : String}
    (absent : c ∉ text.toList) :
    c ∉ (foldCase text).toList := by
  rw [toList_foldCase, List.mem_map]
  rintro ⟨d, member, lower⟩
  rcases toLower_cases d with same | capital
  · rw [same] at lower
    exact absent (lower ▸ member)
  · rw [lower] at capital
    omega

/-- A number in decimal digits has no case. -/
@[simp] theorem foldCase_toString (number : Nat) :
    foldCase (toString number) = toString number := by
  apply String.toList_injective
  rw [toList_foldCase, Nat.toString_eq_repr, Nat.toList_repr]
  have kept : ∀ c ∈ Nat.toDigits 10 number, c.toLower = c := fun c member =>
    toLower_of_isDigit (Nat.isDigit_of_mem_toDigits (by decide) (by decide) member)
  rw [List.map_congr_left kept, List.map_id']

/-- Different numbers have different digits. -/
theorem toString_injective
    {first second : Nat}
    (same : toString first = toString second) :
    first = second := by
  rw [Nat.toString_eq_repr, Nat.toString_eq_repr] at same
  have digits := congrArg String.toList same
  rw [Nat.toList_repr, Nat.toList_repr] at digits
  have values := congrArg (Nat.ofDigitChars 10 · 0) digits
  simpa using values

/-- Texts that share their front and their end differ in between. -/
theorem append_cancel
    {front first second rest : String}
    (same : front ++ first ++ rest = front ++ second ++ rest) :
    first = second := by
  have lists := congrArg String.toList same
  simp only [String.toList_append] at lists
  exact String.toList_injective (List.append_cancel_left (List.append_cancel_right lists))

end Text
end QuestMod
