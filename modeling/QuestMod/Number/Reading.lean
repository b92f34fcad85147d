import QuestMod.Number.Shortest

/-!
# Reading numbers

Plain decimal grammars for integers and single-precision numbers. Signs are
optional, digits are the ASCII digits, and nothing may stand around the number.
-/

namespace QuestMod
namespace Number

/-- Value of an ASCII digit. -/
def digitValue (c : Char) : Nat :=
  c.toNat - '0'.toNat

/-- Value of a run of ASCII digits. -/
def digitsValue (digits : List Char) : Nat :=
  digits.foldl (fun value c => 10 * value + digitValue c) 0

/-- The optional sign at the front, and what follows it. -/
def readSign : List Char → Bool × List Char
  | '-' :: rest => (true, rest)
  | '+' :: rest => (false, rest)
  | rest => (false, rest)

/-- An integer in decimal, with an optional sign. -/
def readInteger? (characters : List Char) : Option Int :=
  let (negative, digits) := readSign characters
  if digits.isEmpty || !digits.all Char.isDigit then none
  else
    let value : Int := digitsValue digits
    some (if negative then -value else value)

/-- The exponent part behind the digits of a number, zero when there is none. -/
def readExponent? : List Char → Option Int
  | [] => some 0
  | c :: rest => if c = 'e' ∨ c = 'E' then readInteger? rest else none

/-- An unsigned decimal with an optional point and an optional exponent. At least
one digit stands before or behind the point. -/
def readDecimal? (characters : List Char) : Option Decimal :=
  let whole := characters.takeWhile Char.isDigit
  let behindWhole := characters.dropWhile Char.isDigit
  let (fraction, rest) :=
    match behindWhole with
    | '.' :: behindPoint =>
        (behindPoint.takeWhile Char.isDigit, behindPoint.dropWhile Char.isDigit)
    | rest => ([], rest)
  if whole.isEmpty && fraction.isEmpty then none
  else
    (readExponent? rest).map fun exponent =>
      ⟨digitsValue (whole ++ fraction), exponent - fraction.length⟩

namespace Single

/-- The number nearest to a decimal. -/
def ofDecimal (negative : Bool) (decimal : Decimal) : Single :=
  ofMagnitude negative
    (BinaryFormat.single.nearestDecimal decimal.digits decimal.exponent)

/-- The number nearest to a decimal that is first rounded to double precision. -/
def ofDecimalThroughDouble (negative : Bool) (decimal : Decimal) : Single :=
  ofMagnitude negative
    (BinaryFormat.single.convert
      (BinaryFormat.double.nearestDecimal decimal.digits decimal.exponent))

/-- Reads a number: a decimal, an infinity or an undefined value, with an optional
sign. Letter case does not matter. -/
def read? (characters : List Char) : Option Single :=
  let (negative, unsigned) := readSign characters
  let lower := String.ofList (unsigned.map Char.toLower)
  if lower = "inf" ∨ lower = "infinity" then some (ofMagnitude negative .infinite)
  else if lower = "nan" then some undefined
  else (readDecimal? unsigned).map (ofDecimal negative)

end Single
end Number
end QuestMod
