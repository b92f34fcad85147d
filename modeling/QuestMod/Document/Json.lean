import QuestMod.Number.Reading
import QuestMod.Text.Reader

/-!
# JSON values

Reading and writing of JSON texts. Numbers keep their characters, because their meaning
depends on where they are used; numbers beyond double precision are refused. Of equal
names in an object the last one counts. Containers nest at most 127 deep.
-/

namespace QuestMod
namespace Document

/-- A JSON value. -/
inductive Json
  | null
  | bool (value : Bool)
  | number (lexeme : List Char)
  | text (content : String)
  | list (items : List Json)
  | object (fields : List (String × Json))

namespace Json

open Text (Reader)
open Text.Reader

/-- The value under a name. -/
def field? (value : Json) (name : String) : Option Json :=
  match value with
  | .object fields => fields.lookup name
  | _ => none

/-- White space of the notation. -/
def isSpace (c : Char) : Bool :=
  c == ' ' || c == '\t' || c == '\n' || c == '\r'

/-- Skips white space. -/
def skipSpace : Reader Unit := do
  let _ ← takeWhile isSpace

/-- The code unit of four hexadecimal digits. -/
def codeUnit : Reader Nat := do
  let digits ← takeExactly (fun c => (Text.hexValue? c).isSome) 4
  match Text.digitsIn? 16 digits with
  | some value => return value
  | none => failure

/-- The character of an escape by code units, behind its letter. Characters with large
code points take a pair of units. -/
def unitEscape : Reader Char := do
  let high ← codeUnit
  if 0xD800 ≤ high ∧ high < 0xDC00 then
    expectText "\\u"
    let low ← codeUnit
    if 0xDC00 ≤ low ∧ low < 0xE000 then
      match Text.characterOf? (0x10000 + (high - 0xD800) * 0x400 + (low - 0xDC00)) with
      | some c => return c
      | none => failure
    else failure
  else
    match Text.characterOf? high with
    | some c => return c
    | none => failure

/-- The character of an escape, behind its backslash. -/
def escapeSequence : Reader Char := do
  match ← next with
  | '"' => return '"'
  | '\\' => return '\\'
  | '/' => return '/'
  | 'b' => return '\x08'
  | 'f' => return '\x0c'
  | 'n' => return '\n'
  | 'r' => return '\r'
  | 't' => return '\t'
  | 'u' => unitEscape
  | _ => failure

/-- The characters of a text up to its closing quote. -/
def textBody : Nat → List Char → Reader String
  | 0, _ => failure
  | fuel + 1, reversed => do
      match ← next with
      | '"' => return String.ofList reversed.reverse
      | '\\' => textBody fuel ((← escapeSequence) :: reversed)
      | c => if c.toNat < 0x20 then failure else textBody fuel (c :: reversed)

/-- A text behind its opening quote. -/
def quotedText : Reader String := do
  textBody ((← get).length + 1) []

/-- The characters of an exponent, if one comes next. -/
def exponentPart : Reader (List Char) := do
  match ← peek? with
  | some c =>
      if c = 'e' ∨ c = 'E' then
        let _ ← next
        let sign ← if ← accept '-' then pure ['-'] else do
          let _ ← accept '+'
          pure []
        return c :: sign ++ (← takeSome Char.isDigit)
      else return []
  | none => return []

/-- The number is finite in double precision. -/
def isInRange (lexeme : List Char) : Bool :=
  match Number.readDecimal? (Number.readSign lexeme).2 with
  | some decimal =>
      Number.BinaryFormat.double.nearestDecimal decimal.digits decimal.exponent != .infinite
  | none => false

/-- The characters of a number. -/
def numberLexeme : Reader (List Char) := do
  let sign ← if ← accept '-' then pure ['-'] else pure []
  let whole ← takeSome Char.isDigit
  if whole.length > 1 && whole.head? == some '0' then failure
  let fraction ←
    if ← accept '.' then do
      pure ('.' :: (← takeSome Char.isDigit))
    else pure []
  let lexeme := sign ++ whole ++ fraction ++ (← exponentPart)
  if isInRange lexeme then return lexeme else failure

/-- The first of equal names in a list of fields. -/
def firstOfEach : List (String × Json) → List (String × Json)
  | [] => []
  | field :: fields => field :: (firstOfEach fields).filter fun other => other.1 != field.1

mutual

/-- A value in which containers nest at most `depth` deep. -/
def value : Nat → Nat → Reader Json
  | 0, _ => failure
  | fuel + 1, depth => do
      skipSpace
      match ← peek? with
      | some 'n' =>
          expectText "null"
          return .null
      | some 't' =>
          expectText "true"
          return .bool true
      | some 'f' =>
          expectText "false"
          return .bool false
      | some '"' =>
          let _ ← next
          return .text (← quotedText)
      | some '[' =>
          let _ ← next
          match depth with
          | 0 => failure
          | depth + 1 =>
              skipSpace
              if ← accept ']' then return .list [] else return .list (← items fuel depth [])
      | some '\x7b' =>
          let _ ← next
          match depth with
          | 0 => failure
          | depth + 1 =>
              skipSpace
              if ← accept '\x7d' then return .object []
              else return .object (← fields fuel depth [])
      | _ => return .number (← numberLexeme)

/-- The items of a list up to its end. -/
def items : Nat → Nat → List Json → Reader (List Json)
  | 0, _, _ => failure
  | fuel + 1, depth, reversed => do
      let item ← value fuel depth
      skipSpace
      if ← accept ',' then items fuel depth (item :: reversed)
      else
        expect ']'
        return (item :: reversed).reverse

/-- The fields of an object up to its end. -/
def fields : Nat → Nat → List (String × Json) → Reader (List (String × Json))
  | 0, _, _ => failure
  | fuel + 1, depth, reversed => do
      skipSpace
      expect '"'
      let name ← quotedText
      skipSpace
      expect ':'
      let content ← value fuel depth
      skipSpace
      if ← accept ',' then fields fuel depth ((name, content) :: reversed)
      else
        expect '\x7d'
        return (firstOfEach ((name, content) :: reversed)).reverse

end

/-- How deep containers may nest. -/
def nestingLimit : Nat := 127

/-- The value of a JSON text. -/
def parse? (source : String) : Option Json :=
  let document : Reader Json := do
    let content ← value (2 * (← get).length + 2) nestingLimit
    skipSpace
    return content
  readAll? document source.toList

/-- An escape by one code unit. -/
def unitEscapeText (unit : Nat) : List Char :=
  ['\\', 'u', Nat.digitChar (unit / 4096 % 16), Nat.digitChar (unit / 256 % 16),
    Nat.digitChar (unit / 16 % 16), Nat.digitChar (unit % 16)]

/-- A character of a text. Only printable ASCII characters stand for themselves. -/
def characterText (c : Char) : List Char :=
  let code := c.toNat
  if c = '"' ∨ c = '\\' then ['\\', c]
  else if 0x20 ≤ code ∧ code < 0x7F then [c]
  else if code < 0x10000 then unitEscapeText code
  else
    unitEscapeText (0xD800 + (code - 0x10000) / 0x400) ++
      unitEscapeText (0xDC00 + (code - 0x10000) % 0x400)

/-- A text with its quotes. -/
def quote (content : String) : String :=
  String.ofList ('"' :: content.toList.flatMap characterText ++ ['"'])

mutual

/-- The JSON text of a value. -/
def render : Json → String
  | .null => "null"
  | .bool value => if value then "true" else "false"
  | .number lexeme => String.ofList lexeme
  | .text content => quote content
  | .list items => "[" ++ ",".intercalate (renderItems items) ++ "]"
  | .object fields => "\x7b" ++ ",".intercalate (renderFields fields) ++ "\x7d"

/-- The JSON texts of items. -/
def renderItems : List Json → List String
  | [] => []
  | item :: items => render item :: renderItems items

/-- The JSON texts of fields. -/
def renderFields : List (String × Json) → List String
  | [] => []
  | (name, value) :: fields => (quote name ++ ":" ++ render value) :: renderFields fields

end

end Json
end Document
end QuestMod
