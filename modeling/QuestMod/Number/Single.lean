import QuestMod.Number.Binary

/-!
# Single-precision numbers

A single-precision number is its thirty-two bits: a sign, eight bits of exponent
and twenty-three bits of fraction. The greatest exponent field marks infinities
and values that are no number.
-/

namespace QuestMod
namespace Number

/-- A 32-bit floating-point number. -/
structure Single where
  /-- Sign, exponent field and fraction field, from the highest bit down. -/
  bits : UInt32
  deriving DecidableEq

namespace Single

/-- The sign bit is set. -/
def isNegative (value : Single) : Bool :=
  0x80000000 ≤ value.bits.toNat

/-- The eight exponent bits. -/
def exponentField (value : Single) : Nat :=
  value.bits.toNat / 0x800000 % 0x100

/-- The twenty-three fraction bits. -/
def fractionField (value : Single) : Nat :=
  value.bits.toNat % 0x800000

/-- The value is neither infinite nor undefined. -/
def isFinite (value : Single) : Bool :=
  value.exponentField != 255

/-- The value is not a number. -/
def isUndefined (value : Single) : Bool :=
  value.exponentField == 255 && value.fractionField != 0

/-- The number's magnitude; undefined values count as infinite. -/
def magnitude (value : Single) : Magnitude :=
  if value.exponentField = 255 then .infinite
  else if value.exponentField = 0 then .finite value.fractionField (-149)
  else .finite (value.fractionField + 0x800000) ((value.exponentField : Int) - 150)

/-- The number with a sign and a magnitude of the single-precision format. -/
def ofMagnitude (negative : Bool) (magnitude : Magnitude) : Single :=
  let unsigned :=
    match magnitude with
    | .infinite => 0x7F800000
    | .finite significand exponent => (exponent + 149).toNat * 0x800000 + significand
  ⟨UInt32.ofNat (unsigned + if negative then 0x80000000 else 0)⟩

/-- The value that is no number. -/
def undefined : Single := ⟨0x7FC00000⟩

/-- Positive zero. -/
def zero : Single := ⟨0⟩

end Single
end Number
end QuestMod
