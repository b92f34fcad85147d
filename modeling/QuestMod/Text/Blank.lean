/-!
# Blank characters and blank text

A character is blank when it has the Unicode property `White_Space`. Trimming
removes blank characters at both ends, and a text is blank when nothing is left
of it. Lines end at line feeds, and a carriage return just before the line feed
belongs to the line end.
-/

namespace QuestMod
namespace Text

/-- The Unicode property `White_Space`. -/
def isBlank (c : Char) : Bool :=
  let code := c.toNat
  (0x9 ≤ code && code ≤ 0xD) || code == 0x20 || code == 0x85 || code == 0xA0 ||
    code == 0x1680 || (0x2000 ≤ code && code ≤ 0x200A) || code == 0x2028 ||
    code == 0x2029 || code == 0x202F || code == 0x205F || code == 0x3000

/-- The characters without the blank ones at the front. -/
def trimFront (characters : List Char) : List Char :=
  characters.dropWhile isBlank

/-- The characters without the blank ones at the back. -/
def trimBack (characters : List Char) : List Char :=
  (characters.reverse.dropWhile isBlank).reverse

/-- The text without blank characters at either end. -/
def trim (text : String) : String :=
  String.ofList (trimBack (trimFront text.toList))

/-- Nothing is left of the text once it is trimmed. -/
def isBlankText (text : String) : Bool :=
  text.toList.all isBlank

/-- The trimmed text, unless nothing is left of it. -/
def nonBlank? (text : String) : Option String :=
  if isBlankText text then none else some (trim text)

/-- Cuts a list at each separator; there is always one piece more than separators. -/
def splitAt {α : Type} [DecidableEq α] (separator : α) : List α → List (List α)
  | [] => [[]]
  | c :: rest =>
      if c = separator then [] :: splitAt separator rest
      else
        match splitAt separator rest with
        | [] => [[c]]
        | piece :: pieces => (c :: piece) :: pieces

/-- Drops one carriage return at the end of a line. -/
def dropReturn (line : List Char) : List Char :=
  match line.getLast? with
  | some '\r' => line.dropLast
  | _ => line

/-- The lines of a text as character lists. The piece behind the last line feed
is a line only when it is not empty, and it keeps its carriage return. -/
def lineList (characters : List Char) : List (List Char) :=
  let pieces := splitAt '\n' characters
  let closed := pieces.dropLast.map dropReturn
  match pieces.getLast? with
  | some [] => closed
  | some rest => closed ++ [rest]
  | none => closed

/-- The lines of a text, without their line ends. -/
def lines (text : String) : List String :=
  (lineList text.toList).map String.ofList

/-- Non-blank lines of a text, each trimmed, joined by line feeds. -/
def trimmedLines (text : String) : String :=
  "\n".intercalate (((lines text).map trim).filter (fun line => !line.isEmpty))

/-- Lower case of the ASCII letters; every other character stays. -/
def foldCase (text : String) : String :=
  String.ofList (text.toList.map Char.toLower)

/-- Equality of texts that ignores the case of ASCII letters. -/
def sameIgnoringCase (first second : String) : Bool :=
  foldCase first == foldCase second

/-- The list in front of the last separator and the list behind it. -/
def splitLast {α : Type} [DecidableEq α] (separator : α) (list : List α) :
    Option (List α × List α) :=
  match (splitAt separator list).reverse with
  | last :: piece :: pieces => some ([separator].intercalate (piece :: pieces).reverse, last)
  | _ => none

/-- The text in front of the last dot and the text behind it. -/
def splitLastDot (text : String) : Option (String × String) :=
  (splitLast '.' text.toList).map fun (stem, extension) =>
    (String.ofList stem, String.ofList extension)

end Text
end QuestMod
