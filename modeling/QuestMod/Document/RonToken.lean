import QuestMod.Text.IdentifierCharacter
import QuestMod.Text.Reader

/-!
# Words and literals of RON documents

White space and comments, words with and without a raw mark, and literals in quotes.
Comments may stand wherever white space may, and they nest.
-/

namespace QuestMod
namespace Document
namespace Ron

open Text (Reader)
open Text.Reader

/-- White space of the notation. -/
def isSpace (c : Char) : Bool :=
  let code := c.toNat
  (0x9 ≤ code && code ≤ 0xD) || code == 0x20 || code == 0x85 || code == 0x200E ||
    code == 0x200F || code == 0x2028 || code == 0x2029

/-- What follows a block comment, whose body starts at a nesting level. -/
def afterComment? : Nat → List Char → Option (List Char)
  | 0, rest => some rest
  | _ + 1, [] => none
  | level + 1, '/' :: '*' :: rest => afterComment? (level + 2) rest
  | level + 1, '*' :: '/' :: rest => afterComment? level rest
  | level + 1, _ :: rest => afterComment? (level + 1) rest

theorem afterComment?_length {level : Nat} {characters rest : List Char}
    (closed : afterComment? level characters = some rest) :
    rest.length ≤ characters.length := by
  fun_induction afterComment? level characters with
  | case1 => simp_all
  | case2 => simp at closed
  | case3 level inner ih =>
      have := ih closed
      simp only [List.length_cons]
      omega
  | case4 level inner ih =>
      have := ih closed
      simp only [List.length_cons]
      omega
  | case5 level c inner _ _ ih =>
      have := ih closed
      simp only [List.length_cons]
      omega

/-- What follows white space and comments. A slash must begin a comment. -/
def afterSpaces? : List Char → Option (List Char)
  | [] => some []
  | '/' :: '/' :: rest => afterSpaces? (rest.dropWhile (· != '\n'))
  | '/' :: '*' :: rest =>
      match closed : afterComment? 1 rest with
      | some behind =>
          have := afterComment?_length closed
          afterSpaces? behind
      | none => none
  | '/' :: _ => none
  | c :: rest => if isSpace c then afterSpaces? rest else some (c :: rest)
termination_by characters => characters.length
decreasing_by
  · have := (List.dropWhile_sublist (· != '\n') (l := rest)).length_le
    simp only [List.length_cons]
    omega
  · simp only [List.length_cons]
    omega
  · simp

/-- Skips white space and comments. -/
def space : Reader Unit := do
  match afterSpaces? (← get) with
  | some rest => set rest
  | none => failure

/-- Takes a comma with the white space around it, and says whether there was one. -/
def comma : Reader Bool := do
  space
  if ← accept ',' then
    space
    return true
  else return false

/-! ## Words -/

/-- A word. -/
structure Word where
  name : String
  /-- The word is written with a raw mark. -/
  raw : Bool
  deriving DecidableEq

/-- A character of a word written with a raw mark. -/
def isRawWordCharacter (c : Char) : Bool :=
  Text.continuesIdentifier c || c == '.' || c == '+' || c == '-'

/-- A character that may start a word. -/
def opensWord (c : Char) : Bool :=
  Text.startsIdentifier c || c == '_'

/-- A string or byte literal starts here, although its first letter could start a
word. -/
def startsLiteral (characters : List Char) : Bool :=
  ["b\"", "b'", "br#", "br\"", "r\"", "r#\"", "r##"].any fun mark =>
    mark.toList.isPrefixOf characters

/-- A word starts here. -/
def startsWord (characters : List Char) : Bool :=
  match characters with
  | c :: _ => opensWord c && !startsLiteral characters
  | [] => false

/-- Takes a word. Behind a raw mark it may hold points and signs. -/
def takeWord : Reader Word := do
  unless startsWord (← get) do
    failure
  if ← acceptText "r#" then return ⟨String.ofList (← takeSome isRawWordCharacter), true⟩
  else
    let name ← takeWhile Text.continuesIdentifier
    if (← peek?).any isRawWordCharacter then failure
    else return ⟨String.ofList name, false⟩

/-- A word with a colon behind it starts here. -/
def startsField (characters : List Char) : Bool :=
  let reader : Reader Unit := do
    let _ ← takeWord
    space
    expect ':'
  (reader.run characters).isSome

/-- The mark of an optional value. -/
def optionMark : List Char :=
  "Some".toList

/-- The mark of an optional value starts here. It is written without a raw mark, and no
longer word starts with it. -/
def startsMark (characters : List Char) : Bool :=
  optionMark.isPrefixOf characters &&
    !(characters.drop optionMark.length).head?.any Text.continuesIdentifier

/-! ## Literals -/

/-- What an escape stands for. -/
inductive Escaped
  | byte (value : UInt8)
  | character (c : Char)

/-- The bytes of a character in UTF-8. -/
def utf8Bytes (c : Char) : List UInt8 :=
  String.utf8EncodeChar c

/-- The bytes that an escape stands for. -/
def Escaped.bytes : Escaped → List UInt8
  | byte value => [value]
  | character c => utf8Bytes c

/-- The byte that two hexadecimal digits stand for. -/
def byteEscape : Reader UInt8 := do
  let digits ← takeExactly (fun c => (Text.hexValue? c).isSome) 2
  match Text.digitsIn? 16 digits with
  | some value => return UInt8.ofNat value
  | none => failure

/-- The character that hexadecimal digits in braces stand for. -/
def characterEscape : Reader Char := do
  expect '\x7b'
  let digits ← takeSome fun c => (Text.hexValue? c).isSome
  expect '\x7d'
  if digits.length > 6 then failure
  else
    match (Text.digitsIn? 16 digits).bind Text.characterOf? with
    | some c => return c
    | none => failure

/-- An escape behind its backslash. -/
def escapeSequence : Reader Escaped := do
  match ← next with
  | '\'' => return .byte 0x27
  | '"' => return .byte 0x22
  | '\\' => return .byte 0x5C
  | 'n' => return .byte 0x0A
  | 'r' => return .byte 0x0D
  | 't' => return .byte 0x09
  | '0' => return .byte 0
  | 'x' => return .byte (← byteEscape)
  | 'u' => return .character (← characterEscape)
  | _ => failure

/-- The bytes of a quoted text up to its closing quote. -/
def quotedBytes : Nat → List UInt8 → Reader (List UInt8)
  | 0, _ => failure
  | fuel + 1, reversed => do
      match ← next with
      | '"' => return reversed.reverse
      | '\\' => quotedBytes fuel ((← escapeSequence).bytes.reverse ++ reversed)
      | c => quotedBytes fuel ((utf8Bytes c).reverse ++ reversed)

/-- The characters of a raw text up to its closing mark. -/
def rawBody (closing : List Char) : List Char → Option (List Char × List Char)
  | [] => none
  | c :: rest =>
      if closing.isPrefixOf (c :: rest) then some ([], (c :: rest).drop closing.length)
      else (rawBody closing rest).map fun reading => (c :: reading.1, reading.2)

/-- A raw text behind its letter. -/
def rawText : Reader String := do
  let hashes ← takeWhile (· == '#')
  expect '"'
  match rawBody ('"' :: hashes) (← get) with
  | some (body, rest) =>
      set rest
      return String.ofList body
  | none => failure

/-- A text in quotes. Its bytes must be valid UTF-8. -/
def textLiteral : Reader String := do
  if ← accept 'r' then rawText
  else
    expect '"'
    let bytes ← quotedBytes ((← get).length + 1) []
    match String.fromUTF8? ⟨bytes.toArray⟩ with
    | some content => return content
    | none => failure

/-- A byte string. -/
def byteStringLiteral : Reader Unit := do
  expect 'b'
  if ← accept 'r' then
    let _ ← rawText
  else
    expect '"'
    let _ ← quotedBytes ((← get).length + 1) []

/-- A single character. An escaped byte must be a character of its own. -/
def characterLiteral : Reader Unit := do
  expect '\''
  if (← next) = '\\' then
    match ← escapeSequence with
    | .byte value => if value ≥ 0x80 then failure
    | .character _ => pure ()
  expect '\''

/-- A single byte: an ASCII character, or an escape that stands for a byte. -/
def byteLiteral : Reader Unit := do
  expectText "b'"
  let c ← next
  if c = '\\' then
    match ← escapeSequence with
    | .byte _ => pure ()
    | .character _ => failure
  else if c.toNat ≥ 0x80 then failure
  expect '\''

end Ron
end Document
end QuestMod
