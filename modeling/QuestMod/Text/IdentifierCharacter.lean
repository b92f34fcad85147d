import QuestMod.Text.Ranges
import QuestMod.Text.IdentifierRanges

/-!
# Identifier characters

The two Unicode classes out of which identifiers are built. Every character that
may start an identifier may also continue one. Among the ASCII characters the
classes hold the letters, and the letters, digits and underscore.
-/

namespace QuestMod
namespace Text

/-- The Unicode property `XID_Start`. -/
def startsIdentifier (c : Char) : Bool :=
  if c.toNat < 0x80 then c.isAlpha
  else inRanges IdentifierRanges.basicStart c || inRanges IdentifierRanges.supplementaryStart c

/-- The Unicode property `XID_Continue`. -/
def continuesIdentifier (c : Char) : Bool :=
  startsIdentifier c ||
    if c.toNat < 0x80 then c.isDigit || c == '_'
    else inRanges IdentifierRanges.laterOnly c

theorem continuesIdentifier_of_startsIdentifier {c : Char} (starts : startsIdentifier c) :
    continuesIdentifier c := by
  simp [continuesIdentifier, starts]

end Text
end QuestMod
