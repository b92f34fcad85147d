import QuestMod.Document.RonToken

/-!
# Reading RON documents

RON is the notation of blueprint files. A value is a word, a number, a text, a list,
a map, or a pair of parentheses with elements or with named fields; a word may stand
in front of the parentheses. Numbers are kept as they were written, because their
meaning depends on where they are used.

A document may switch on extensions in front of its value. Under one of them an
optional value may be written without its mark, or behind a mark without parentheses.
Under another one the mark may hold several elements or fields directly. Where nothing
tells what the mark should hold, a glance ahead decides whether it holds several
elements, so the glance is kept beside them.
-/

namespace QuestMod
namespace Document

namespace Ron

/-- What a glance through the parentheses of a mark finds. -/
inductive Glance
  | one
  | several
  /-- The brackets are not closed, or what looks like a comment is none. -/
  | unclear
  deriving DecidableEq

end Ron

/-- A RON value. -/
inductive Ron
  | word (word : Ron.Word)
  | number (lexeme : List Char)
  | text (content : String)
  /-- A character, a byte or a byte string, which no field takes. -/
  | literal
  /-- Empty parentheses without a name and without white space. -/
  | unit
  | list (items : List Ron)
  | map (entries : List (Ron × Ron))
  | tuple (name : Option String) (items : List Ron)
  | record (name : Option String) (fields : List (String × Ron))
  /-- The mark of an optional value with parentheses, which hold one value unless an
  extension allows for others. -/
  | marked (glance : Ron.Glance) (items : List Ron)
  /-- The mark of an optional value in front of its content. -/
  | bareMark (content : Ron)
  /-- Fields directly inside the mark of an optional value. -/
  | unwrapped (fields : List (String × Ron))

namespace Ron

open Text (Reader)
open Text.Reader

/-- Deviations from the plain notation that a document may ask for. -/
structure Extensions where
  /-- An optional value may be written without its mark. -/
  implicitSome : Bool := false
  /-- The fields of an optional record stand directly inside its mark. -/
  unwrapVariants : Bool := false
  /-- Records must be named. -/
  explicitNames : Bool := false
  deriving DecidableEq

/-- The number of levels that a document may nest. -/
def levelLimit : Nat :=
  128

/-- Words that stand for values of their own and name nothing that follows, unless
they have a raw mark. -/
def valueWords : List String :=
  ["true", "false", "None", "inf", "inff32", "inff64", "NaN", "NaNf32", "NaNf64"]

/-- Looks for a comma behind the first element, inside a number of further brackets.
Brackets count where they do not stand in comments or literals; a comment right
behind a literal is not seen as one. -/
def glanceInside : Nat → Nat → Reader Glance
  | 0, _ => failure
  | fuel + 1, level => do
      space
      attempt characterLiteral
      attempt (do let _ ← textLiteral)
      attempt byteStringLiteral
      match ← next, level with
      | '(', level | '[', level | '\x7b', level => glanceInside fuel (level + 1)
      | ')', level + 1 | ']', level + 1 | '\x7d', level + 1 => glanceInside fuel level
      | ')', 0 | ']', 0 | '\x7d', 0 => return .one
      | ',', 0 =>
          space
          return if (← peek?) = some ')' then .one else .several
      | _, level => glanceInside fuel level

/-- What a glance finds behind an opening parenthesis. -/
def glance (characters : List Char) : Glance :=
  ((glanceInside (characters.length + 1) 0).run' characters).getD .unclear

mutual

/-- A value in which parts nest at most `depth` deep. -/
def value (extensions : Extensions) : Nat → Nat → Reader Ron
  | 0, _ => failure
  | fuel + 1, depth => do
      let characters ← get
      if startsMark characters then
        set (characters.drop optionMark.length)
        optional extensions fuel depth
      else if startsWord characters then
        let word ← takeWord
        if !word.raw && valueWords.contains word.name then return .word word
        else
          space
          if ← accept '(' then inParentheses extensions fuel depth (some word.name)
          else return .word word
      else
        match characters with
        | '(' :: ')' :: rest =>
            set rest
            return .unit
        | '(' :: rest =>
            set rest
            inParentheses extensions fuel depth none
        | '[' :: rest =>
            set rest
            match depth with
            | 0 => failure
            | depth + 1 => return .list (← items extensions fuel depth ']' [])
        | '\x7b' :: rest =>
            set rest
            match depth with
            | 0 => failure
            | depth + 1 => return .map (← entries extensions fuel depth [])
        | '"' :: _ | 'r' :: _ => return .text (← textLiteral)
        | '\'' :: _ =>
            characterLiteral
            return .literal
        | 'b' :: '\'' :: _ =>
            byteLiteral
            return .literal
        | 'b' :: _ =>
            byteStringLiteral
            return .literal
        | c :: _ =>
            if c.isDigit || c == '+' || c == '-' || c == '.' then
              return .number (← takeWhile isRawWordCharacter)
            else failure
        | [] => failure

/-- An optional value behind its mark. -/
def optional (extensions : Extensions) : Nat → Nat → Reader Ron
  | 0, _ => failure
  | _ + 1, 0 => failure
  | fuel + 1, depth + 1 => do
      space
      if ← accept '(' then
        space
        let characters ← get
        if !extensions.unwrapVariants then
          return .marked .one (← items extensions fuel depth ')' [])
        else if startsField characters then
          return .marked .one [.unwrapped (← fields extensions fuel depth [])]
        else if ← accept ')' then return .marked .one [.unit]
        else return .marked (glance characters) (← items extensions fuel depth ')' [])
      else if extensions.implicitSome then
        return .bareMark (← value extensions fuel depth)
      else failure

/-- Elements or fields behind an opening parenthesis. -/
def inParentheses (extensions : Extensions) : Nat → Nat → Option String → Reader Ron
  | 0, _, _ => failure
  | _ + 1, 0, _ => failure
  | fuel + 1, depth + 1, name => do
      space
      if startsField (← get) then
        return .record name (← fields extensions fuel depth [])
      else return .tuple name (← items extensions fuel depth ')' [])

/-- Elements up to a closing bracket, with commas between them. -/
def items (extensions : Extensions) : Nat → Nat → Char → List Ron → Reader (List Ron)
  | 0, _, _, _ => failure
  | fuel + 1, depth, closer, reversed => do
      space
      if ← accept closer then return reversed.reverse
      let item ← value extensions fuel depth
      if ← comma then items extensions fuel depth closer (item :: reversed)
      else
        expect closer
        return (item :: reversed).reverse

/-- Fields up to the closing parenthesis, with commas between them. Any word may name a
field. -/
def fields (extensions : Extensions) :
    Nat → Nat → List (String × Ron) → Reader (List (String × Ron))
  | 0, _, _ => failure
  | fuel + 1, depth, reversed => do
      space
      if ← accept ')' then return reversed.reverse
      let word ← takeWord
      space
      expect ':'
      space
      let content ← value extensions fuel depth
      if ← comma then fields extensions fuel depth ((word.name, content) :: reversed)
      else
        expect ')'
        return ((word.name, content) :: reversed).reverse

/-- Keys with their values up to the closing brace, with commas between them. -/
def entries (extensions : Extensions) :
    Nat → Nat → List (Ron × Ron) → Reader (List (Ron × Ron))
  | 0, _, _ => failure
  | fuel + 1, depth, reversed => do
      space
      if ← accept '\x7d' then return reversed.reverse
      let key ← value extensions fuel depth
      space
      expect ':'
      space
      let content ← value extensions fuel depth
      if ← comma then entries extensions fuel depth ((key, content) :: reversed)
      else
        expect '\x7d'
        return ((key, content) :: reversed).reverse

end

/-- Switches on the extension with a name. -/
def Extensions.enable? (extensions : Extensions) (name : String) : Option Extensions :=
  match name with
  | "unwrap_newtypes" => some extensions
  | "implicit_some" => some { extensions with implicitSome := true }
  | "unwrap_variant_newtypes" => some { extensions with unwrapVariants := true }
  | "explicit_struct_names" => some { extensions with explicitNames := true }
  | _ => none

/-- The names in an extension attribute, up to its end. -/
def extensionNames : Nat → Extensions → Reader Extensions
  | 0, _ => failure
  | fuel + 1, extensions => do
      match extensions.enable? (← takeWord).name with
      | none => failure
      | some extensions =>
          if (← comma) && startsWord (← get) then extensionNames fuel extensions
          else
            expect ')'
            space
            expect ']'
            return extensions

/-- The extension attributes at the front of a document. -/
def attributes : Nat → Extensions → Reader Extensions
  | 0, _ => failure
  | fuel + 1, extensions => do
      space
      if ← accept '#' then
        for part in ["!", "[", "enable", "("] do
          space
          expectText part
        space
        attributes fuel (← extensionNames (← get).length extensions)
      else return extensions

/-- A document's extensions and its value. -/
def document : Reader (Extensions × Ron) := do
  let extensions ← attributes ((← get).length + 1) {}
  let content ← value extensions (4 * (← get).length + 4) levelLimit
  space
  return (extensions, content)

/-- The extensions and the value of a RON document. -/
def parse? (source : String) : Option (Extensions × Ron) :=
  readAll? document source.toList

end Ron
end Document
end QuestMod
