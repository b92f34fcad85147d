import QuestMod.Proofs.Text.LiteralValue
import QuestMod.Proofs.Source.Remainder

/-!
# String literals as tokens

The literal of a text is read as one string token, which ends at its own closing quote whatever
the text holds and whatever follows: the body is written character by character, and reading a
body gets over what is written for one character in one step. The value of the literal is the
text, so different texts have different literals.
-/

namespace QuestMod
namespace Source

open Text (literal literalBody literalCharacter literalValue?)

/-- Reading a body gets over what is written for one character. -/
theorem stringBody?_literalCharacter_append
    (c : Char)
    (rest : List Char) :
    stringBody? (literalCharacter c ++ rest) =
      (stringBody? rest).map fun reading => (literalCharacter c ++ reading.1, reading.2) := by
  rcases Text.literalCharacter_cases c with
    ⟨mark, written⟩ | ⟨written, notBackslash, notQuote, _, notNewline⟩
  · rw [written]
    rfl
  · rw [written]
    exact readsQuoted_stringBody?.plain notQuote notBackslash notNewline rest

/-- Reading the body of a literal ends at the quote behind it. -/
theorem stringBody?_literalBody (characters rest : List Char) :
    stringBody? (literalBody characters ++ '"' :: rest) =
      some (literalBody characters ++ ['"'], rest) := by
  induction characters with
  | nil => rfl
  | cons c others ih =>
      rw [Text.literalBody_cons, List.append_assoc, stringBody?_literalCharacter_append, ih,
        Option.map_some, List.append_assoc]

/-- The literal of a text is one token in front of any other text. -/
theorem leaf?_literal
    (text : String)
    (rest : List Char) :
    leaf? ('"' :: ((literal text).toList ++ '"' :: rest)) =
      some (.string ('"' :: ((literal text).toList ++ ['"'])), rest) := by
  rw [literal, String.toList_ofList, leaf?, stringBody?_literalBody, Option.map_some]

/-- In quotes and in front of any other text, the literal body of a text is read as a string
that ends at its closing quote, and its value is the text. The four passes that write it come
to one substitution for each character, so bodies of joined texts are joined, and different
texts have different bodies. -/
theorem literals_exact_before_any_text
    (text other : String)
    (rest : List Char) :
    leaf? ('"' :: ((literal text).toList ++ '"' :: rest)) =
        some (.string ('"' :: ((literal text).toList ++ ['"'])), rest) ∧
      literalValue? ('"' :: ((literal text).toList ++ '"' :: rest)) = some text ∧
      (literal text).toList = text.toList.flatMap literalCharacter ∧
      literal (text ++ other) = literal text ++ literal other ∧
      (literal text = literal other ↔ text = other) := by
  refine ⟨leaf?_literal text rest, ?_, Text.toList_literal text, Text.literal_append text other,
    Text.literal_inj, congrArg literal⟩
  have value := Text.literalValue?_stringLiteral text rest
  rw [Text.toList_stringLiteral_append] at value
  rw [literal, String.toList_ofList]
  exact value

end Source
end QuestMod
