/-!
# Readers

A reader takes something from the front of a character list and leaves the rest, or
fails. Readers are used for the text formats of blueprint and settings files.
-/

namespace QuestMod
namespace Text

/-- Takes a value from the front of a text, or fails. -/
abbrev Reader (α : Type) : Type :=
  StateT (List Char) Option α

namespace Reader

variable {α : Type}

/-- The next character, which stays in place. -/
def peek? : Reader (Option Char) := do
  return (← get).head?

/-- Takes the next character. -/
def next : Reader Char := do
  match ← get with
  | [] => failure
  | c :: rest =>
      set rest
      return c

/-- Takes the character if it comes next, and says whether it did. -/
def accept (expected : Char) : Reader Bool := do
  match ← get with
  | c :: rest =>
      if c = expected then
        set rest
        return true
      else return false
  | [] => return false

/-- Takes the text if it comes next, and says whether it did. -/
def acceptText (expected : String) : Reader Bool := do
  let characters ← get
  if expected.toList.isPrefixOf characters then
    set (characters.drop expected.length)
    return true
  else return false

/-- Takes the character, which must come next. -/
def expect (expected : Char) : Reader Unit := do
  if ← accept expected then return () else failure

/-- Takes the text, which must come next. -/
def expectText (expected : String) : Reader Unit := do
  if ← acceptText expected then return () else failure

/-- Takes characters as long as they are in the class. -/
def takeWhile (inClass : Char → Bool) : Reader (List Char) := do
  let characters ← get
  set (characters.dropWhile inClass)
  return characters.takeWhile inClass

/-- Takes characters of the class, at least one. -/
def takeSome (inClass : Char → Bool) : Reader (List Char) := do
  let taken ← takeWhile inClass
  if taken.isEmpty then failure else return taken

/-- Takes a number of characters, each of the class. -/
def takeExactly (inClass : Char → Bool) (count : Nat) : Reader (List Char) := do
  let characters ← get
  let taken := characters.take count
  if taken.length = count && taken.all inClass then
    set (characters.drop count)
    return taken
  else failure

/-- Lets the reader take what it can, and takes nothing where it fails. -/
def attempt (reader : Reader Unit) : Reader Unit := do
  let characters ← get
  match reader.run characters with
  | some (_, rest) => set rest
  | none => return ()

/-- Nothing is left. -/
def atEnd : Reader Bool := do
  return (← get).isEmpty

/-- The value that a reader takes from a whole text. -/
def readAll? (reader : Reader α) (characters : List Char) : Option α :=
  match reader.run characters with
  | some (value, []) => some value
  | _ => none

end Reader

/-- Value of a hexadecimal digit. -/
def hexValue? (c : Char) : Option Nat :=
  if c.isDigit then some (c.toNat - '0'.toNat)
  else if 'a' ≤ c ∧ c ≤ 'f' then some (c.toNat - 'a'.toNat + 10)
  else if 'A' ≤ c ∧ c ≤ 'F' then some (c.toNat - 'A'.toNat + 10)
  else none

/-- Value of digits in a base; every character must be a digit of the base. -/
def digitsIn? (base : Nat) (digits : List Char) : Option Nat :=
  digits.foldlM
    (fun value c =>
      match hexValue? c with
      | some digit => if digit < base then some (base * value + digit) else none
      | none => none)
    0

/-- The character with a code point, unless the code point is a surrogate or too
large. -/
def characterOf? (code : Nat) : Option Char :=
  if valid : code.isValidChar then some (Char.ofNatAux code valid) else none

end Text
end QuestMod
