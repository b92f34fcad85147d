import QuestMod.Path.Basic

/-!
# Maps from paths

A map from paths keeps its entries in path order. Paths with the same components are
the same key, and an entry that is put again keeps the text of its first key.
-/

namespace QuestMod
namespace Path

/-- A map from paths to values, ordered by path. -/
structure Map (α : Type) where
  entries : List (Path × α) := []
  deriving DecidableEq

namespace Map

variable {α : Type}

/-- The map without entries. -/
def empty : Map α := {}

/-- The value of a path. -/
def find? (map : Map α) (path : Path) : Option α :=
  (map.entries.find? fun entry => entry.1.sameAs path).map (·.2)

/-- The path has a value. -/
def contains (map : Map α) (path : Path) : Bool :=
  map.entries.any fun entry => entry.1.sameAs path

/-- Puts an entry at its place in an ordered list. -/
def insertEntry (path : Path) (value : α) : List (Path × α) → List (Path × α)
  | [] => [(path, value)]
  | (key, old) :: entries =>
      if key.sameAs path then (key, value) :: entries
      else if path.atMost key then (path, value) :: (key, old) :: entries
      else (key, old) :: insertEntry path value entries

/-- Gives a path a value. -/
def insert (map : Map α) (path : Path) (value : α) : Map α :=
  ⟨insertEntry path value map.entries⟩

/-- Takes the value of a path away. -/
def erase (map : Map α) (path : Path) : Map α :=
  ⟨map.entries.filter fun entry => !entry.1.sameAs path⟩

/-- The paths with values, in order. -/
def keys (map : Map α) : List Path :=
  map.entries.map (·.1)

end Map
end Path
end QuestMod
