import QuestMod.Number.Reading
import QuestMod.Text.Reader

/-!
# Numbers of RON documents

A number keeps its characters until the field that takes it is known. Integers may
have a sign, a base mark, underscores behind the first digit, and, in base ten or two,
a suffix that states their type. Floating-point numbers may have underscores behind a
digit and a suffix too.
-/

namespace QuestMod
namespace Document
namespace Ron

open Text (digitsIn?)

/-- The integer types that a suffix may state. -/
inductive IntegerType
  | signed (bits : Nat)
  | unsigned (bits : Nat)
  deriving DecidableEq

/-- The value fits the type. -/
def IntegerType.holds (type : IntegerType) (value : Int) : Bool :=
  match type with
  | signed bits => -(1 <<< (bits - 1) : Nat) ≤ value && value < (1 <<< (bits - 1) : Nat)
  | unsigned bits => 0 ≤ value && value < (1 <<< bits : Nat)

/-- The type with a suffix. -/
def IntegerType.ofSuffix? (suffix : List Char) : Option IntegerType :=
  match String.ofList suffix with
  | "i8" => some (.signed 8)
  | "i16" => some (.signed 16)
  | "i32" => some (.signed 32)
  | "i64" => some (.signed 64)
  | "u8" => some (.unsigned 8)
  | "u16" => some (.unsigned 16)
  | "u32" => some (.unsigned 32)
  | "u64" => some (.unsigned 64)
  | _ => none

/-- An integer with the type that its suffix states, if there is a suffix. -/
structure Integer where
  value : Int
  type : Option IntegerType

/-- The integer is usable where the type is expected. -/
def Integer.fits (integer : Integer) (expected : IntegerType) : Bool :=
  expected.holds integer.value &&
    match integer.type with
    | some type => type == expected
    | none => true

/-- The base that a mark in front of the digits states, and the characters behind
the mark. -/
def splitBase : List Char → Nat × List Char
  | '0' :: 'x' :: rest => (16, rest)
  | '0' :: 'o' :: rest => (8, rest)
  | '0' :: 'b' :: rest => (2, rest)
  | rest => (10, rest)

/-- A character of an integer's digits. -/
def isIntegerCharacter (c : Char) : Bool :=
  (Text.hexValue? c).isSome || c == '_'

/-- The integer with these characters. -/
def readInteger? (lexeme : List Char) : Option Integer := do
  let (negative, unsigned) := Number.readSign lexeme
  let (base, body) := splitBase unsigned
  let written := body.takeWhile isIntegerCharacter
  let suffix := body.dropWhile isIntegerCharacter
  if written.isEmpty || written.head? == some '_' then none
  else
    let magnitude ← digitsIn? base (written.filter (· != '_'))
    let value : Int := if negative then -magnitude else magnitude
    if suffix.isEmpty then return ⟨value, none⟩
    else if base = 8 || base = 16 then none
    else
      let type ← IntegerType.ofSuffix? suffix
      if type.holds value then return ⟨value, some type⟩ else none

/-- The unsigned integer with these characters, for a number of bits. -/
def readUnsigned? (bits : Nat) (lexeme : List Char) : Option Nat := do
  let integer ← readInteger? lexeme
  if integer.fits (.unsigned bits) then return integer.value.toNat else none

/-- A character of a floating-point number without its suffix. -/
def isFloatCharacter (c : Char) : Bool :=
  c.isDigit || c == 'e' || c == 'E' || c == '.' || c == '+' || c == '-' || c == '_'

/-- The characters without underscores. An underscore may stand only where one is
allowed: behind a digit or an exponent mark, until the next point. -/
def dropUnderscores? : Bool → List Char → Option (List Char)
  | _, [] => some []
  | allowed, c :: rest =>
      if c = '_' then if allowed then dropUnderscores? allowed rest else none
      else
        let allowed :=
          if c.isDigit || c == 'e' || c == 'E' then true
          else if c == '.' then false
          else allowed
        (dropUnderscores? allowed rest).map (c :: ·)

/-- The number that a word for an infinity or an undefined value stands for. The
word may have a suffix that states the type. -/
def specialNumber? (suffix word : String) : Option Number.Single :=
  if ["inf", "+inf", "-inf", "NaN", "+NaN", "-NaN"].any fun plain =>
      word == plain || word == plain ++ suffix then
    Number.Single.read? (if word.endsWith suffix then word.toList.dropLast.dropLast.dropLast
      else word.toList)
  else none

/-- The floating-point number with these characters and a suffix that may follow. -/
def readFloat? (suffix : String) (lexeme : List Char) : Option Number.Single :=
  match specialNumber? suffix (String.ofList lexeme) with
  | some number => some number
  | none =>
      let written := lexeme.takeWhile isFloatCharacter
      let rest := lexeme.dropWhile isFloatCharacter
      if rest.isEmpty || rest == suffix.toList then
        (dropUnderscores? false written).bind Number.Single.read?
      else none

/-- The characters have the form of an integer: one of the type that its suffix states,
or else one of 64 bits. -/
def isIntegerForm (lexeme : List Char) : Bool :=
  (readInteger? lexeme).any fun integer =>
    integer.type.isSome || integer.fits (.unsigned 64) || integer.fits (.signed 64)

/-- The characters have the form of a floating-point number. -/
def isFloatForm (lexeme : List Char) : Bool :=
  (readFloat? "f32" lexeme).isSome || (readFloat? "f64" lexeme).isSome

/-- More characters at the front could belong to a floating-point number than to an
integer. -/
def looksLikeFloat (lexeme : List Char) : Bool :=
  let unsigned := (Number.readSign lexeme).2
  (unsigned.takeWhile isFloatCharacter).length > (unsigned.takeWhile isIntegerCharacter).length

/-- The characters have the form of some number. What is no integer, or one of too many
bits, is a floating-point number. -/
def isNumberForm (lexeme : List Char) : Bool :=
  isFloatForm lexeme || (!looksLikeFloat lexeme && isIntegerForm lexeme)

end Ron
end Document
end QuestMod
