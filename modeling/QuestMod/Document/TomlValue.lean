/-!
# TOML values and tables

A document is a tree of tables. A table is opened by a header, by a longer header
that passes through it, or by a dotted key; which of these happened decides what may
be added to it later. Tables written inline are closed at once.
-/

namespace QuestMod
namespace Document

/-- How a table came into being. -/
inductive TableOrigin
  /-- By a header of its own. -/
  | header
  /-- By a longer header. -/
  | passedHeader
  /-- By a dotted key. -/
  | dottedKey
  deriving DecidableEq

/-- A TOML value. Values that no setting takes carry nothing. -/
inductive Toml
  | string (text : String)
  | integer (value : Int)
  | float
  | boolean (value : Bool)
  | moment
  | array (items : List Toml)
  | inline (entries : List (String × Toml))
  | table (origin : TableOrigin) (entries : List (String × Toml))
  | tables (elements : List (List (String × Toml)))

namespace Toml

/-- Keys with their values, in the order in which they appeared. -/
abbrev Entries : Type :=
  List (String × Toml)

/-- The entries with another value for a key. -/
def replace (entries : Entries) (key : String) (value : Toml) : Entries :=
  entries.map fun entry => if entry.1 = key then (key, value) else entry

/-- The entries with a value for a new key. -/
def add? (entries : Entries) (key : String) (value : Toml) : Option Entries :=
  match entries.lookup key with
  | none => some (entries ++ [(key, value)])
  | some _ => none

/-- Changes the table at the end of a path. Tables that the path passes through are
opened where they are missing; the last element stands for an array of tables. A
dotted key may not pass through a table that has a header of its own. -/
def changeAt (dotted : Bool) (change : TableOrigin → Entries → Option Entries) :
    List String → TableOrigin → Entries → Option Entries
  | [], origin, entries => change origin entries
  | key :: path, _, entries =>
      let newOrigin := if dotted then TableOrigin.dottedKey else .passedHeader
      match entries.lookup key with
      | none => do
          let inner ← changeAt dotted change path newOrigin []
          return entries ++ [(key, .table newOrigin inner)]
      | some (.table origin inner) =>
          if dotted && origin == .header then none
          else do
            let inner ← changeAt dotted change path origin inner
            return replace entries key (.table origin inner)
      | some (.tables elements) => do
          let last ← elements.getLast?
          let last ← changeAt dotted change path .header last
          return replace entries key (.tables (elements.dropLast ++ [last]))
      | some _ => none

/-- Adds a value under a dotted key. The table that holds the value must come from
dotted keys too, unless the key has no dots. -/
def insertDotted? (path : List String) (key : String) (value : Toml) (entries : Entries) :
    Option Entries :=
  changeAt true
    (fun origin inner =>
      if !path.isEmpty && origin != .dottedKey then none else add? inner key value)
    path .header entries

/-- Adds a value under a dotted key to the table of a header. -/
def insertBelow? (header path : List String) (key : String) (value : Toml)
    (root : Entries) : Option Entries :=
  changeAt false (fun _ entries => insertDotted? path key value entries) header .header root

/-- Opens the table of a header. The table must be new, or only longer headers may
have passed through it. -/
def openTable? (path : List String) (key : String) (root : Entries) : Option Entries :=
  changeAt false
    (fun _ entries =>
      match entries.lookup key with
      | none => some (entries ++ [(key, .table .header [])])
      | some (.table .passedHeader inner) => some (replace entries key (.table .header inner))
      | some _ => none)
    path .header root

/-- Opens the next element of an array of tables. -/
def openElement? (path : List String) (key : String) (root : Entries) : Option Entries :=
  changeAt false
    (fun _ entries =>
      match entries.lookup key with
      | none => some (entries ++ [(key, .tables [[]])])
      | some (.tables elements) => some (replace entries key (.tables (elements ++ [[]])))
      | some _ => none)
    path .header root

end Toml
end Document
end QuestMod
