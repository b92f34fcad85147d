/-!
# Rounding to binary floating point

A binary floating-point format keeps a significand of fixed precision times a
power of two. A positive rational number is rounded to the nearest number of the
format; of two equally near numbers the one with the even significand is taken,
and a number beyond the greatest exponent becomes infinite.
-/

namespace QuestMod
namespace Number

/-- Precision and exponent range of a binary floating-point format. -/
structure BinaryFormat where
  /-- Number of bits of a significand. -/
  precision : Nat
  /-- Exponent of the smallest positive number. -/
  leastExponent : Int
  /-- Exponent of the greatest finite number. -/
  greatestExponent : Int

namespace BinaryFormat

/-- The 32-bit format. -/
def single : BinaryFormat := ⟨24, -149, 104⟩

/-- The 64-bit format. -/
def double : BinaryFormat := ⟨53, -1074, 971⟩

end BinaryFormat

/-- A number without its sign: a significand times a power of two, or infinity. -/
inductive Magnitude
  | finite (significand : Nat) (exponent : Int)
  | infinite
  deriving DecidableEq

/-- The natural number nearest to a quotient; a half goes to the even neighbour. -/
def roundQuotient (numerator denominator : Nat) : Nat :=
  let whole := numerator / denominator
  let twiceRest := 2 * (numerator % denominator)
  if twiceRest < denominator then whole
  else if denominator < twiceRest then whole + 1
  else if whole % 2 = 0 then whole
  else whole + 1

/-- Nearest natural number to a quotient times a power of two. -/
def roundScaled (numerator denominator : Nat) (exponent : Int) : Nat :=
  roundQuotient (numerator <<< exponent.toNat) (denominator <<< (-exponent).toNat)

/-- The greatest power of two that is at most a positive quotient. -/
def floorLog2 (numerator denominator : Nat) : Int :=
  let estimate : Int := numerator.log2 - denominator.log2
  if denominator <<< estimate.toNat ≤ numerator <<< (-estimate).toNat then estimate
  else estimate - 1

/-- The magnitude of a format nearest to a quotient. -/
def BinaryFormat.nearest (format : BinaryFormat) (numerator denominator : Nat) : Magnitude :=
  if numerator = 0 then .finite 0 format.leastExponent
  else
    let exponent :=
      max format.leastExponent (floorLog2 numerator denominator - format.precision + 1)
    let significand := roundScaled numerator denominator (-exponent)
    let carried := significand = 1 <<< format.precision
    let significand := if carried then significand / 2 else significand
    let exponent := if carried then exponent + 1 else exponent
    if format.greatestExponent < exponent then .infinite else .finite significand exponent

/-- The magnitude of a format nearest to `digits` times a power of ten. Decimals of
more than four hundred places before or behind the point lie beyond every format,
and no power of ten is computed for them. -/
def BinaryFormat.nearestDecimal (format : BinaryFormat) (digits : Nat) (exponent : Int) :
    Magnitude :=
  let places : Int := (Nat.toDigits 10 digits).length + exponent
  if digits = 0 ∨ places < -400 then .finite 0 format.leastExponent
  else if 400 < places then .infinite
  else format.nearest (digits * Nat.pow 10 exponent.toNat) (Nat.pow 10 (-exponent).toNat)

/-- A magnitude of one format rounded to another format. -/
def BinaryFormat.convert (format : BinaryFormat) : Magnitude → Magnitude
  | .infinite => .infinite
  | .finite significand exponent =>
      format.nearest (significand <<< exponent.toNat) (1 <<< (-exponent).toNat)

end Number
end QuestMod
