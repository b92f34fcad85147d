import QuestMod.Blueprint.Basic
import QuestMod.Number.Shortest
import QuestMod.Text.Escape

/-!
# Literals of generated source

Numbers and texts of a blueprint as literals. A number literal carries the shortest
digits that read back as the same single-precision number.
-/

namespace QuestMod
namespace Source

/-- The literal of a single-precision number. -/
def singleLiteral (value : Number.Single) : String :=
  value.toText ++ "f"

/-- The expression of a location. -/
def vectorLiteral (location : Blueprint.Location) : String :=
  "new Vector3(" ++ singleLiteral location.x ++ ", " ++ singleLiteral location.y ++ ", " ++
    singleLiteral location.z ++ ")"

/-- String literals with commas between them. -/
def literalList (texts : List String) : String :=
  ", ".intercalate (texts.map Text.stringLiteral)

/-- The literal of a truth value. -/
def boolLiteral (value : Bool) : String :=
  if value then "true" else "false"

end Source
end QuestMod
