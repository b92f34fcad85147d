/-!
# Character ranges

Membership of a character in a list of closed code point ranges.
-/

namespace QuestMod
namespace Text

/-- The character's code point lies in one of the ranges, both ends included. -/
def inRanges (ranges : List (Nat × Nat)) (c : Char) : Bool :=
  ranges.any fun range => range.1 ≤ c.toNat && c.toNat ≤ range.2

end Text
end QuestMod
