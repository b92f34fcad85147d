import QuestMod.Digest.Sha1

/-!
# Identifiers derived from names

A name-based identifier is the first sixteen bytes of the SHA-1 digest of a
namespace and a name, with version five and the standard variant marked in it. The
same name always gets the same identifier.
-/

namespace QuestMod
namespace Digest

/-- Namespace of the identifiers in solution files. -/
def solutionNamespace : List UInt8 :=
  [0x5B, 0x0C, 0x1F, 0x6E, 0x8D, 0x4A, 0x5A, 0x57, 0x9C, 0x1E, 0x3F, 0x6A, 0x2B, 0x7D, 0x9E,
    0x40]

/-- Sets the version and variant bits of sixteen identifier bytes. -/
def markVersion (bytes : List UInt8) : List UInt8 :=
  (bytes.modify 6 fun byte => (byte &&& 0x0F) ||| 0x50).modify 8 fun byte =>
    (byte &&& 0x3F) ||| 0x80

/-- The identifier bytes of a name in a namespace. -/
def nameId (space : List UInt8) (name : String) : List UInt8 :=
  markVersion ((sha1 (space ++ name.toUTF8.toList)).take 16)

/-- Two upper-case hexadecimal digits of a byte. -/
def hexByte (byte : UInt8) : List Char :=
  [Nat.digitChar (byte.toNat / 16), Nat.digitChar (byte.toNat % 16)].map Char.toUpper

/-- Sixteen bytes in upper-case hexadecimal, in groups of four, two, two, two and six
bytes. -/
def groupedHex (bytes : List UInt8) : String :=
  let group (start size : Nat) : List Char := ((bytes.drop start).take size).flatMap hexByte
  String.ofList
    (group 0 4 ++ '-' :: group 4 2 ++ '-' :: group 6 2 ++ '-' :: group 8 2 ++ '-' :: group 10 6)

/-- The identifier of a kind of thing with a name, as solution files show it. -/
def solutionId (kind name : String) : String :=
  groupedHex (nameId solutionNamespace (kind ++ ":" ++ name))

end Digest
end QuestMod
