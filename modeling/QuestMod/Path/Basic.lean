import QuestMod.Text.RawText

/-!
# Paths

A path is a raw text that names a file or directory: paths in blueprints and settings are
texts, but a listed directory can hold names that are none. A path is shown as it was
written, but it is compared by its components: separators may be repeated, a separator may
stand at the end, and single dots count only at the very front of a relative path. Double
dots are kept as components and never resolved.
-/

namespace QuestMod

/-- A path as it was written. -/
structure Path where
  raw : RawText
  deriving DecidableEq

namespace Path

/-- The byte between the pieces of a path. -/
def separator : UInt8 :=
  0x2F

/-- The byte in front of the extension of a name. -/
def dot : UInt8 :=
  0x2E

/-- The bytes that the path is written with. -/
def bytes (path : Path) : List UInt8 :=
  path.raw.bytes

/-- The path as it is shown. -/
def text (path : Path) : String :=
  path.raw.shown

/-- One step of a path. -/
inductive Component
  | root
  | current
  | parent
  | named (name : RawText)
  deriving DecidableEq

/-- The component that a piece between separators stands for, if it counts behind
the front of a path. -/
def Component.ofPiece? (piece : List UInt8) : Option Component :=
  if piece = [] ∨ piece = [dot] then none
  else if piece = [dot, dot] then some .parent
  else some (.named ⟨piece⟩)

/-- The component that the first piece of a relative path stands for. -/
def Component.ofFront (piece : List UInt8) : Component :=
  if piece = [dot] then .current
  else if piece = [dot, dot] then .parent
  else .named ⟨piece⟩

/-- The components of a path's bytes. -/
def componentsOf (bytes : List UInt8) : List Component :=
  match Text.splitAt separator bytes with
  | [] => []
  | [[]] => []
  | [] :: pieces => .root :: pieces.filterMap Component.ofPiece?
  | front :: pieces => .ofFront front :: pieces.filterMap Component.ofPiece?

/-- The components of a path, in order. -/
def components (path : Path) : List Component :=
  componentsOf path.bytes

/-- The paths have the same components. -/
def sameAs (first second : Path) : Bool :=
  first.components == second.components

/-- The order of kinds of components. -/
def Component.rank : Component → Nat
  | .root => 0
  | .current => 1
  | .parent => 2
  | .named _ => 3

/-- The order of components: by kind, and names by their bytes. -/
def Component.precedes : Component → Component → Bool
  | .named first, .named second => first.bytes < second.bytes
  | first, second => first.rank < second.rank

/-- The lexicographic order of component lists, equal ones included. -/
def componentsAtMost : List Component → List Component → Bool
  | [], _ => true
  | _ :: _, [] => false
  | first :: firsts, second :: seconds =>
      first.precedes second || (first == second && componentsAtMost firsts seconds)

/-- The path order: lexicographic by components. -/
def atMost (first second : Path) : Bool :=
  componentsAtMost first.components second.components

/-- The path starts at the root. -/
def isAbsolute (path : Path) : Bool :=
  path.bytes.head? == some separator

/-- The path is not written at all. -/
def isEmpty (path : Path) : Bool :=
  path.bytes.isEmpty

/-- The second path as seen from the first one. -/
def join (base tail : Path) : Path :=
  if tail.isAbsolute then tail
  else if base.isEmpty || base.bytes.getLast? == some separator then ⟨⟨base.bytes ++ tail.bytes⟩⟩
  else ⟨⟨base.bytes ++ separator :: tail.bytes⟩⟩

/-- A path one name below another. -/
def child (base : Path) (name : String) : Path :=
  base.join ⟨name⟩

/-- Pieces that do not count, dropped from the end of a reversed piece list. A
single dot counts when it is the first piece of a relative path. -/
def dropSilent (absolute : Bool) : List (List UInt8) → List (List UInt8)
  | [] => []
  | piece :: pieces =>
      if piece = [] then dropSilent absolute pieces
      else if piece = [dot] && (absolute || !pieces.isEmpty) then dropSilent absolute pieces
      else piece :: pieces

/-- Pieces joined by separators. -/
def joinPieces (pieces : List (List UInt8)) : List UInt8 :=
  [separator].intercalate pieces

/-- The path without its last component, as it was written. The root and the empty
path have no parent. -/
def parent? (path : Path) : Option Path :=
  if path.isAbsolute then
    match dropSilent true (Text.splitAt separator path.bytes.tail).reverse with
    | [] => none
    | _ :: pieces => some ⟨⟨separator :: joinPieces (dropSilent true pieces).reverse⟩⟩
  else
    match dropSilent false (Text.splitAt separator path.bytes).reverse with
    | [] => none
    | _ :: pieces => some ⟨⟨joinPieces (dropSilent false pieces).reverse⟩⟩

/-- The last component, when it is a name. -/
def fileName? (path : Path) : Option RawText :=
  match path.components.getLast? with
  | some (.named name) => some name
  | _ => none

/-- Stem and extension of a file name. A dot at the front does not open an
extension. -/
def splitName (name : RawText) : RawText × Option RawText :=
  match Text.splitLast dot name.bytes with
  | some (stem, extension) => if stem.isEmpty then (name, none) else (⟨stem⟩, some ⟨extension⟩)
  | none => (name, none)

/-- The file name without its extension. -/
def stem? (path : Path) : Option RawText :=
  path.fileName?.map fun name => (splitName name).1

/-- The extension of the file name, without the dot. -/
def extension? (path : Path) : Option RawText :=
  path.fileName?.bind fun name => (splitName name).2

/-- The extension of the file name is this text, ignoring the case of ASCII letters. -/
def hasExtension (path : Path) (extension : String) : Bool :=
  match path.extension?.bind RawText.text? with
  | some own => Text.sameIgnoringCase own extension
  | none => false

/-- The path's parent has the components of the directory. -/
def isDirectlyIn (path directory : Path) : Bool :=
  match path.parent? with
  | some parent => parent.sameAs directory
  | none => false

/-- Paths in path order without repetitions; of equal paths the first one stays. -/
def sortedDistinct (paths : List Path) : List Path :=
  let sorted := paths.mergeSort atMost
  sorted.foldr
    (fun path kept =>
      match kept with
      | [] => [path]
      | next :: rest => if path.sameAs next then path :: rest else path :: kept)
    []

end Path
end QuestMod
