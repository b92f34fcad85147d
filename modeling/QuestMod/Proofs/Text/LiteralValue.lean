import QuestMod.Proofs.Text.Escape

/-!
# Values of string literals

A string literal is read from its opening quote to its closing one, and each escape stands
for one character. A literal that is written for a text has this text as its value, whatever
follows the literal.
-/

namespace QuestMod
namespace Text

/-- The character that a backslash together with a character stands for. -/
def escapedCharacter? : Char → Option Char
  | '\\' => some '\\'
  | '"' => some '"'
  | '\'' => some '\''
  | '0' => some '\x00'
  | 'a' => some '\x07'
  | 'b' => some '\x08'
  | 't' => some '\t'
  | 'n' => some '\n'
  | 'v' => some '\x0b'
  | 'f' => some '\x0c'
  | 'r' => some '\r'
  | _ => none

/-- The characters that the body of a string literal stands for, up to the closing quote.
Escapes that give the code of a character are not read. -/
def bodyValue? : List Char → Option (List Char)
  | [] => none
  | '"' :: _ => some []
  | '\\' :: c :: rest =>
      (escapedCharacter? c).bind fun value => (bodyValue? rest).map (value :: ·)
  | '\\' :: [] => none
  | '\n' :: _ => none
  | c :: rest => (bodyValue? rest).map (c :: ·)

/-- The value of the string literal in front. -/
def literalValue? : List Char → Option String
  | '"' :: rest => (bodyValue? rest).map String.ofList
  | _ => none

/-- A character without an escape stands for itself. -/
theorem bodyValue?_cons_of_ne
    {c : Char}
    (notBackslash : c ≠ '\\')
    (notQuote : c ≠ '"')
    (notNewline : c ≠ '\n')
    (rest : List Char) :
    bodyValue? (c :: rest) = (bodyValue? rest).map (c :: ·) := by
  rw [bodyValue?]
  · exact notQuote
  · exact fun _ _ equal _ => notBackslash equal
  · exact fun equal _ => notBackslash equal
  · exact notNewline

/-- What the body writes for a character is read back as that character. -/
theorem bodyValue?_literalCharacter_append
    (c : Char)
    (rest : List Char) :
    bodyValue? (literalCharacter c ++ rest) = (bodyValue? rest).map (c :: ·) := by
  unfold literalCharacter
  split
  case h_5 notBackslash notQuote notReturn notNewline =>
    exact bodyValue?_cons_of_ne notBackslash notQuote notNewline rest
  all_goals rfl

/-- The body of a literal is read back as the characters that it was written for. -/
theorem bodyValue?_literalBody (characters rest : List Char) :
    bodyValue? (literalBody characters ++ '"' :: rest) = some characters := by
  induction characters with
  | nil => rfl
  | cons c others ih =>
      rw [literalBody_cons, List.append_assoc, bodyValue?_literalCharacter_append, ih]
      rfl

theorem toList_stringLiteral_append
    (text : String)
    (rest : List Char) :
    (stringLiteral text).toList ++ rest = '"' :: (literalBody text.toList ++ '"' :: rest) := by
  have quote : "\"".toList = ['"'] := rfl
  simp only [stringLiteral, literal, String.toList_append, String.toList_ofList, quote,
    List.append_assoc, List.cons_append, List.nil_append]

/-- The value of the literal of a text is the text. -/
theorem literalValue?_stringLiteral
    (text : String)
    (rest : List Char) :
    literalValue? ((stringLiteral text).toList ++ rest) = some text := by
  rw [toList_stringLiteral_append]
  show (bodyValue? (literalBody text.toList ++ '"' :: rest)).map String.ofList = some text
  rw [bodyValue?_literalBody, Option.map_some, String.ofList_toList]

/-- Texts with the same literal are the same, since both are the value of that literal. -/
theorem literal_inj
    {first second : String}
    (same : literal first = literal second) :
    first = second := by
  have quoted : stringLiteral first = stringLiteral second :=
    congrArg (fun body => "\"" ++ body ++ "\"") same
  have value := literalValue?_stringLiteral first []
  rw [quoted, literalValue?_stringLiteral second []] at value
  exact (Option.some.inj value).symm

end Text
end QuestMod
