/-!
# Escaping text for generated files

User text enters generated files in three contexts. In a string literal, four
characters are written as two-character escapes. In markup, five characters are
written as predefined entities. In a line comment, line breaks become spaces.
-/

namespace QuestMod
namespace Text

/-- Replaces every occurrence of one character by a text. -/
def replaceCharacter (target : Char) (replacement : List Char) (characters : List Char) :
    List Char :=
  characters.flatMap fun c => if c = target then replacement else [c]

/-- The body of a string literal with the given characters: backslashes are doubled
first, so that the passes for quotes and line breaks do not meet their own
escapes. -/
def literalBody (characters : List Char) : List Char :=
  replaceCharacter '\n' ['\\', 'n'] <|
    replaceCharacter '\r' ['\\', 'r'] <|
      replaceCharacter '"' ['\\', '"'] <|
        replaceCharacter '\\' ['\\', '\\'] characters

/-- The body of a string literal whose value is the text. -/
def literal (text : String) : String :=
  String.ofList (literalBody text.toList)

/-- The literal body of a text that may be missing. -/
def literal? (text : Option String) : String :=
  (text.map literal).getD ""

/-- The string literal whose value is the text, quotes included. -/
def stringLiteral (text : String) : String :=
  "\"" ++ literal text ++ "\""

/-- How markup writes one character. -/
def markupCharacter (c : Char) : List Char :=
  match c with
  | '&' => "&amp;".toList
  | '<' => "&lt;".toList
  | '>' => "&gt;".toList
  | '"' => "&quot;".toList
  | '\'' => "&apos;".toList
  | c => [c]

/-- The text as element content or attribute value. -/
def markup (text : String) : String :=
  String.ofList (text.toList.flatMap markupCharacter)

/-- The text as the body of a line comment. -/
def commentBody (text : String) : String :=
  String.ofList (text.toList.map fun c => if c = '\n' ∨ c = '\r' then ' ' else c)

end Text
end QuestMod
