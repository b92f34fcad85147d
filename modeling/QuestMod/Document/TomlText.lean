import QuestMod.Number.Reading
import QuestMod.Text.Blank
import QuestMod.Text.Reader
import QuestMod.Document.TomlValue

/-!
# Reading TOML documents

The grammar of TOML 1.0: keys, strings in four forms, numbers, booleans, dates and
times, arrays, inline tables and table headers. Containers nest at most
seventy-nine deep and keys have fewer than eighty segments.
-/

namespace QuestMod
namespace Document
namespace Toml

open Text (Reader)
open Text.Reader

/-- A blank inside a line. -/
def isLineBlank (c : Char) : Bool :=
  c == ' ' || c == '\t'

/-- A character that strings and comments may hold unescaped. -/
def isPlain (c : Char) : Bool :=
  c == '\t' || (0x20 ≤ c.toNat && c.toNat != 0x7F)

/-- A character of a key without quotes. -/
def isBareKey (c : Char) : Bool :=
  c.isAlphanum || c == '_' || c == '-'

/-- Skips blanks inside a line. -/
def skipLineBlanks : Reader Unit := do
  let _ ← takeWhile isLineBlank

/-- Takes a line feed, with or without a carriage return in front of it, if one comes
next. -/
def acceptNewline : Reader Bool := do
  if ← acceptText "\r\n" then return true else accept '\n'

/-- Skips a comment, if one comes next. -/
def skipComment : Reader Unit := do
  if ← accept '#' then
    let _ ← takeWhile isPlain

/-- Takes the end of a line: blanks, a comment, and a line feed or the end of the
document. -/
def lineEnd : Reader Unit := do
  skipLineBlanks
  skipComment
  if ← atEnd then return ()
  if ← acceptNewline then return () else failure

/-- Skips blanks, comments and line feeds between the elements of an array. -/
def skipBetween : Nat → Reader Unit
  | 0 => return ()
  | fuel + 1 => do
      skipLineBlanks
      match ← peek? with
      | some '#' =>
          skipComment
          if ← acceptNewline then skipBetween fuel else failure
      | _ => if ← acceptNewline then skipBetween fuel else return ()

/-- The character that a numbered escape stands for. -/
def numberedEscape (count : Nat) : Reader Char := do
  let digits ← takeExactly (fun c => (Text.hexValue? c).isSome) count
  match (Text.digitsIn? 16 digits).bind Text.characterOf? with
  | some c => return c
  | none => failure

/-- The character that an escape stands for, behind its backslash. -/
def escapeSequence : Reader Char := do
  match ← next with
  | 'b' => return '\x08'
  | 't' => return '\t'
  | 'n' => return '\n'
  | 'f' => return '\x0C'
  | 'r' => return '\r'
  | '"' => return '"'
  | '\\' => return '\\'
  | 'u' => numberedEscape 4
  | 'U' => numberedEscape 8
  | _ => failure

/-- The rest of a string between double quotes on one line. -/
def basicBody : Nat → List Char → Reader String
  | 0, _ => failure
  | fuel + 1, reversed => do
      match ← next with
      | '"' => return String.ofList reversed.reverse
      | '\\' => basicBody fuel ((← escapeSequence) :: reversed)
      | c => if isPlain c then basicBody fuel (c :: reversed) else failure

/-- The rest of a string between single quotes on one line. -/
def literalBody : Reader String := do
  let body ← takeWhile fun c => isPlain c && c != '\''
  expect '\''
  return String.ofList body

/-- Takes quotes up to a number, and gives how many there were. -/
def takeQuotes (quote : Char) : Nat → Reader Nat
  | 0 => return 0
  | count + 1 => do
      if ← accept quote then return (← takeQuotes quote count) + 1 else return 0

/-- Skips blanks and line ends. -/
def skipBlankLines : Nat → Reader Unit
  | 0 => return ()
  | fuel + 1 => do
      skipLineBlanks
      if ← acceptNewline then skipBlankLines fuel else return ()

/-- A bound on the number of steps that reading the rest may take. -/
def remaining : Reader Nat := do
  return (← get).length + 1

/-- Skips the white space behind a backslash at the end of a line. Gives whether there
was a line end. -/
def skipEscapedBreak : Reader Bool := do
  let start ← get
  skipLineBlanks
  if ← acceptNewline then
    skipBlankLines (← remaining)
    return true
  else
    set start
    return false

/-- The rest of a string over several lines. Line ends are read as line feeds, and up
to two quotes may stand in front of the closing three. -/
def multilineBody (quote : Char) (escapes : Bool) : Nat → List Char → Reader String
  | 0, _ => failure
  | fuel + 1, reversed => do
      if ← acceptNewline then multilineBody quote escapes fuel ('\n' :: reversed)
      else
        match ← takeQuotes quote 5 with
        | 0 =>
            let c ← next
            if escapes && c == '\\' then
              if ← skipEscapedBreak then multilineBody quote escapes fuel reversed
              else multilineBody quote escapes fuel ((← escapeSequence) :: reversed)
            else if isPlain c then multilineBody quote escapes fuel (c :: reversed)
            else failure
        | count =>
            if count < 3 then
              multilineBody quote escapes fuel (List.replicate count quote ++ reversed)
            else
              return String.ofList (List.replicate (count - 3) quote ++ reversed).reverse

/-- A string of any form. -/
def stringValue : Reader String := do
  if ← acceptText "\"\"\"" then
    let _ ← acceptNewline
    multilineBody '"' true (← remaining) []
  else if ← acceptText "'''" then
    let _ ← acceptNewline
    multilineBody '\'' false (← remaining) []
  else if ← accept '"' then basicBody (← remaining) []
  else
    expect '\''
    literalBody

/-- One segment of a key. -/
def keySegment : Reader String := do
  match ← peek? with
  | some '"' =>
      let _ ← next
      basicBody (← remaining) []
  | some '\'' =>
      let _ ← next
      literalBody
  | _ => return String.ofList (← takeSome isBareKey)

/-- The segments of a dotted key behind the ones read so far. -/
def keySegments : Nat → List String → Reader (List String)
  | 0, _ => failure
  | fuel + 1, reversed => do
      skipLineBlanks
      let segment ← keySegment
      skipLineBlanks
      if ← accept '.' then keySegments fuel (segment :: reversed)
      else return (segment :: reversed).reverse

/-- A dotted key: its path and its last segment. -/
def dottedKey : Reader (List String × String) := do
  let segments ← keySegments 79 []
  match segments.getLast? with
  | some key => return (segments.dropLast, key)
  | none => failure

/-- Digits in which single underscores may stand between digits. -/
def digitRun (isDigit : Char → Bool) : Reader (List Char) := do
  let run ← takeSome fun c => isDigit c || c == '_'
  let pieces := Text.splitAt '_' run
  if pieces.any List.isEmpty then failure else return pieces.flatten

/-- A decimal integer without needless zeros in front, and whether it is negative. -/
def decimalInteger : Reader (Bool × List Char) := do
  let negative ← accept '-'
  unless negative do
    let _ ← accept '+'
  let digits ← digitRun Char.isDigit
  if digits.length > 1 && digits.head? == some '0' then failure
  else return (negative, digits)

/-- The fraction of a number, if one comes next. -/
def fraction : Reader (List Char) := do
  if ← accept '.' then digitRun Char.isDigit else return []

/-- The exponent of a number, if one comes next. -/
def exponent? : Reader (Option Int) := do
  match ← peek? with
  | some c =>
      if c = 'e' ∨ c = 'E' then
        let _ ← next
        let negative ← accept '-'
        unless negative do
          let _ ← accept '+'
        let value : Int := Number.digitsValue (← digitRun Char.isDigit)
        return some (if negative then -value else value)
      else return none
  | none => return none

/-- A floating-point number. A positive number must not be too large for double
precision. -/
def floatValue : Reader Unit := do
  let (negative, whole) ← decimalInteger
  let places ← fraction
  let exponent ← exponent?
  if places.isEmpty && exponent.isNone then failure
  let digits := Number.digitsValue (whole ++ places)
  let scale := exponent.getD 0 - places.length
  match Number.BinaryFormat.double.nearestDecimal digits scale with
  | .infinite => if negative then return () else failure
  | .finite _ _ => return ()

/-- An infinite or undefined floating-point number. -/
def specialFloat : Reader Unit := do
  unless ← accept '-' do
    let _ ← accept '+'
  if ← acceptText "inf" then return () else expectText "nan"

/-- An integer of a base behind its base mark. -/
def basedInteger (base : Nat) : Reader Int := do
  let digits ← digitRun fun c => (Text.hexValue? c).any (· < base)
  match Text.digitsIn? base digits with
  | some value => return value
  | none => failure

/-- An integer in decimal or behind a base mark. -/
def anyInteger : Reader Int := do
  if ← acceptText "0x" then basedInteger 16
  else if ← acceptText "0o" then basedInteger 8
  else if ← acceptText "0b" then basedInteger 2
  else
    let (negative, digits) ← decimalInteger
    let value : Int := Number.digitsValue digits
    return if negative then -value else value

/-- An integer that fits into 64 bits. -/
def integerValue : Reader Int := do
  let value ← anyInteger
  if -0x8000000000000000 ≤ value ∧ value < 0x8000000000000000 then return value else failure

/-- A number of a fixed count of digits within bounds. -/
def boundedNumber (count low high : Nat) : Reader Nat := do
  let value := Number.digitsValue (← takeExactly Char.isDigit count)
  if low ≤ value ∧ value ≤ high then return value else failure

/-- Days of a month. -/
def daysOf (year month : Nat) : Nat :=
  if month = 2 then
    if year % 4 = 0 ∧ (year % 100 ≠ 0 ∨ year % 400 = 0) then 29 else 28
  else if month = 4 ∨ month = 6 ∨ month = 9 ∨ month = 11 then 30
  else 31

/-- A date of the calendar. -/
def dateValue : Reader Unit := do
  let year ← boundedNumber 4 0 9999
  expect '-'
  let month ← boundedNumber 2 1 12
  expect '-'
  let _ ← boundedNumber 2 1 (daysOf year month)

/-- A time of day. The last minute of an hour may have a leap second. -/
def timeValue : Reader Unit := do
  let _ ← boundedNumber 2 0 23
  expect ':'
  let _ ← boundedNumber 2 0 59
  expect ':'
  let _ ← boundedNumber 2 0 60
  if ← accept '.' then
    let _ ← takeSome Char.isDigit

/-- The offset of a time from universal time. -/
def offsetValue : Reader Unit := do
  match ← next with
  | 'Z' => return ()
  | 'z' => return ()
  | c =>
      if c = '+' ∨ c = '-' then
        let _ ← boundedNumber 2 0 23
        expect ':'
        let _ ← boundedNumber 2 0 59
      else failure

/-- The reader's value is taken if it can be read. -/
def optionally (reader : Reader Unit) : Reader Unit :=
  reader <|> pure ()

/-- A date, a time, or both with or without an offset. -/
def momentValue : Reader Unit :=
  (do
    dateValue
    optionally do
      let separator ← next
      if separator = 'T' ∨ separator = 't' ∨ separator = ' ' then
        timeValue
        optionally offsetValue
      else failure) <|>
    timeValue

/-- A number, a date or a time. -/
def numericValue : Reader Toml :=
  (do momentValue; return .moment) <|> (do floatValue; return .float) <|>
    (do specialFloat; return .float) <|> (do return .integer (← integerValue))

mutual

/-- A value in which containers nest at most `depth` deep. -/
def value : Nat → Nat → Reader Toml
  | 0, _ => failure
  | fuel + 1, depth => do
      match ← peek? with
      | some '"' => return .string (← stringValue)
      | some '\'' => return .string (← stringValue)
      | some '[' =>
          let _ ← next
          match depth with
          | 0 => failure
          | depth + 1 => return .array (← arrayItems fuel depth [])
      | some '\x7b' =>
          let _ ← next
          match depth with
          | 0 => failure
          | depth + 1 =>
              skipLineBlanks
              if ← accept '\x7d' then return .inline []
              else return .inline (← inlineEntries fuel depth [])
      | some 't' =>
          expectText "true"
          return .boolean true
      | some 'f' =>
          expectText "false"
          return .boolean false
      | _ => numericValue

/-- The elements of an array up to its closing bracket. -/
def arrayItems : Nat → Nat → List Toml → Reader (List Toml)
  | 0, _, _ => failure
  | fuel + 1, depth, reversed => do
      skipBetween (← remaining)
      if ← accept ']' then return reversed.reverse
      let item ← value fuel depth
      skipBetween (← remaining)
      if ← accept ',' then arrayItems fuel depth (item :: reversed)
      else
        expect ']'
        return (item :: reversed).reverse

/-- The entries of an inline table up to its closing brace. No comma may stand behind
the last entry. -/
def inlineEntries : Nat → Nat → Entries → Reader Entries
  | 0, _, _ => failure
  | fuel + 1, depth, entries => do
      let (path, key) ← dottedKey
      expect '='
      skipLineBlanks
      let item ← value fuel depth
      skipLineBlanks
      match insertDotted? path key item entries with
      | none => failure
      | some entries =>
          if ← accept ',' then inlineEntries fuel depth entries
          else
            expect '\x7d'
            return entries

end

/-- A key with its value, up to the end of the line. -/
def keyLine : Reader ((List String × String) × Toml) := do
  let key ← dottedKey
  expect '='
  skipLineBlanks
  let item ← value (2 * (← remaining)) 79
  lineEnd
  return (key, item)

/-- The value of an optional step, which must be there. -/
def need {α : Type} : Option α → Reader α
  | some result => return result
  | none => failure

/-- The lines of a document: the root table grows line by line, and keys belong to
the table of the last header. -/
def documentLines : Nat → List String → Entries → Reader Entries
  | 0, _, _ => failure
  | fuel + 1, header, root => do
      skipLineBlanks
      match ← peek? with
      | none => return root
      | some '#' =>
          lineEnd
          documentLines fuel header root
      | some '\n' =>
          lineEnd
          documentLines fuel header root
      | some '\r' =>
          lineEnd
          documentLines fuel header root
      | some '[' =>
          if ← acceptText "[[" then
            let (path, key) ← dottedKey
            expectText "]]"
            lineEnd
            documentLines fuel (path ++ [key]) (← need (openElement? path key root))
          else
            let _ ← next
            let (path, key) ← dottedKey
            expect ']'
            lineEnd
            documentLines fuel (path ++ [key]) (← need (openTable? path key root))
      | some _ =>
          let ((path, key), item) ← keyLine
          documentLines fuel header (← need (insertBelow? header path key item root))

/-- The entries of a document's root table. A byte order mark may stand in front. -/
def parse? (text : String) : Option Entries :=
  let document : Reader Entries := do
    let _ ← accept '\uFEFF'
    documentLines (← remaining) [] []
  readAll? document text.toList

end Toml
end Document
end QuestMod
