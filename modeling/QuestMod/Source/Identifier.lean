import QuestMod.Text.Blank
import QuestMod.Text.IdentifierCharacter

/-!
# Identifiers of generated source

An identifier starts with a letter or an underscore and goes on with identifier
characters; it is usable when it is no keyword. Any text is made into a usable
identifier here. Two texts may give the same identifier: names are made unique
elsewhere.
-/

namespace QuestMod
namespace Source

/-- Reserved words of the generated language. -/
def reservedWords : List String := [
  "abstract", "as", "base", "bool", "break", "byte", "case", "catch", "char", "checked",
  "class", "const", "continue", "decimal", "default", "delegate", "do", "double", "else",
  "enum", "event", "explicit", "extern", "false", "finally", "fixed", "float", "for",
  "foreach", "goto", "if", "implicit", "in", "int", "interface", "internal", "is", "lock",
  "long", "namespace", "new", "null", "object", "operator", "out", "override", "params",
  "private", "protected", "public", "readonly", "ref", "return", "sbyte", "sealed", "short",
  "sizeof", "stackalloc", "static", "string", "struct", "switch", "this", "throw", "true",
  "try", "typeof", "uint", "ulong", "unchecked", "unsafe", "ushort", "using", "virtual",
  "void", "volatile", "while"]

/-- The word is reserved. -/
def isReservedWord (word : String) : Bool :=
  reservedWords.contains word

/-- The character may stand at the front of an identifier. -/
def opensIdentifier (c : Char) : Bool :=
  Text.startsIdentifier c || c == '_'

/-- The characters have the form of an identifier. -/
def isIdentifierForm : List Char → Bool
  | [] => false
  | c :: rest => opensIdentifier c && rest.all Text.continuesIdentifier

/-- An identifier that is no keyword. -/
def isIdentifier (name : String) : Bool :=
  isIdentifierForm name.toList && !isReservedWord name

/-- A character behind the front of an identifier: itself if it may stand there, and
an underscore otherwise. -/
def continuation (c : Char) : Char :=
  if Text.continuesIdentifier c then c else '_'

/-- The identifier form of a text. Characters that cannot stand at the front are
dropped, except that an ASCII digit is kept behind an underscore. -/
def identifierForm : List Char → List Char
  | [] => []
  | c :: rest =>
      if opensIdentifier c then c :: rest.map continuation
      else if c.isDigit then '_' :: c :: rest.map continuation
      else identifierForm rest

/-- A usable identifier for a text, or the fallback when no character of the text
can be used. A keyword gets an underscore in front. -/
def usableIdentifier (candidate fallback : String) : String :=
  if Text.isBlankText candidate then fallback
  else
    match identifierForm candidate.toList with
    | [] => fallback
    | form =>
        let name := String.ofList form
        if isReservedWord name then "_" ++ name else name

/-- Usable identifiers for the segments of a dotted name. Segments without a usable
character are dropped. -/
def namespaceSegments (candidate : String) : List String :=
  (((Text.splitAt '.' candidate.toList).map fun segment =>
    usableIdentifier (String.ofList segment) "").filter fun segment => !segment.isEmpty)

/-- A dotted name of usable identifiers, or the fallback when no segment is left. -/
def usableNamespace (candidate fallback : String) : String :=
  match namespaceSegments candidate with
  | [] => fallback
  | segments => ".".intercalate segments

end Source
end QuestMod
