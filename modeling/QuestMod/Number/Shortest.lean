import QuestMod.Number.Single

/-!
# The shortest decimal text of a number

Each finite number has an interval of reals that round to it. The text of a number
comes from the coarsest power-of-ten grid with a point in that interval; of two
such points the nearer one is taken, and the greater one when both are equally
near. Digits are written by position, never with an exponent.
-/

namespace QuestMod
namespace Number

/-- Digits and exponent of a decimal number. -/
structure Decimal where
  digits : Nat
  exponent : Int
  deriving DecidableEq

/-- The reals that round to a number, counted in quarters of its last binary place. -/
structure RoundingInterval where
  lower : Nat
  value : Nat
  upper : Nat
  /-- Exponent of two of the counting unit. -/
  unitExponent : Int
  /-- Both ends round to the number. -/
  closed : Bool

namespace RoundingInterval

/-- The interval of a positive significand times a power of two. Below a power of
two the next smaller number is half as far away as the next greater one. -/
def ofFinite (format : BinaryFormat) (significand : Nat) (exponent : Int) :
    RoundingInterval where
  lower :=
    if significand = 1 <<< (format.precision - 1) ∧ format.leastExponent < exponent then
      4 * significand - 1
    else 4 * significand - 2
  value := 4 * significand
  upper := 4 * significand + 2
  unitExponent := exponent - 2
  closed := significand % 2 = 0

/-- A count of units, as a number to be compared with grid points. -/
def scaledUnits (interval : RoundingInterval) (gridExponent : Int) (count : Nat) : Nat :=
  count <<< interval.unitExponent.toNat * Nat.pow 10 (-gridExponent).toNat

/-- A grid point, as a number to be compared with counts of units. -/
def scaledPoint (interval : RoundingInterval) (gridExponent : Int) (point : Nat) : Nat :=
  point <<< (-interval.unitExponent).toNat * Nat.pow 10 gridExponent.toNat

/-- The grid point rounds to the number. -/
def holds (interval : RoundingInterval) (gridExponent : Int) (point : Nat) : Bool :=
  let scaled := interval.scaledPoint gridExponent point
  let lower := interval.scaledUnits gridExponent interval.lower
  let upper := interval.scaledUnits gridExponent interval.upper
  if interval.closed then lower ≤ scaled && scaled ≤ upper
  else lower < scaled && scaled < upper

/-- The point of a grid that stands for the number, if the grid has one. -/
def pointOn? (interval : RoundingInterval) (gridExponent : Int) : Option Nat :=
  let value := interval.scaledUnits gridExponent interval.value
  let below := value / interval.scaledPoint gridExponent 1
  let above := below + 1
  match interval.holds gridExponent below, interval.holds gridExponent above with
  | false, false => none
  | true, false => some below
  | false, true => some above
  | true, true =>
      if value - interval.scaledPoint gridExponent below <
          interval.scaledPoint gridExponent above - value then
        some below
      else some above

/-- Grid exponents from the coarsest to the finest that a format may need. -/
def gridExponents (coarsest : Int) (count : Nat) : List Int :=
  (List.range count).map fun (step : Nat) => coarsest - (step : Int)

/-- The number's decimal on the coarsest grid that has one. -/
def shortest (interval : RoundingInterval) (coarsest : Int) (count : Nat) : Decimal :=
  ((gridExponents coarsest count).findSome? fun exponent =>
    (interval.pointOn? exponent).map fun point => ⟨point, exponent⟩).getD ⟨0, 0⟩

end RoundingInterval

/-- Decimal digits of a natural number, most significant first. -/
def decimalDigits (number : Nat) : List Char :=
  Nat.toDigits 10 number

/-- A decimal written by position. -/
def Decimal.positional (decimal : Decimal) : List Char :=
  let digits := decimalDigits decimal.digits
  match decimal.exponent with
  | .ofNat zeros => digits ++ List.replicate zeros '0'
  | .negSucc places =>
      let fraction := places + 1
      if digits.length ≤ fraction then
        ['0', '.'] ++ List.replicate (fraction - digits.length) '0' ++ digits
      else
        digits.take (digits.length - fraction) ++ '.' :: digits.drop (digits.length - fraction)

namespace Single

/-- Text of the number without its sign. -/
def unsignedText (value : Single) : List Char :=
  match value.magnitude with
  | .infinite => ['i', 'n', 'f']
  | .finite 0 _ => ['0']
  | .finite significand exponent =>
      ((RoundingInterval.ofFinite BinaryFormat.single significand exponent).shortest
        38 100).positional

/-- Shortest text that reads back as the number; zero keeps its sign. -/
def toText (value : Single) : String :=
  if value.isUndefined then "NaN"
  else String.ofList (if value.isNegative then '-' :: value.unsignedText else value.unsignedText)

end Single
end Number
end QuestMod
