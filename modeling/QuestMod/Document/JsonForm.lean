import QuestMod.Document.Form
import QuestMod.Document.Json
import QuestMod.Number.Reading

/-!
# The form of JSON values

Records are objects, or lists of their fields in order, and their names are not written.
A choice is a text, or an object with one entry: its fields, or null when it carries
none. A missing value may be written as null.
-/

namespace QuestMod
namespace Document
namespace Json

/-- A text. -/
def text? : Decoder Json String
  | .text content => some content
  | _ => none

/-- A truth value. -/
def bool? : Decoder Json Bool
  | .bool value => some value
  | _ => none

/-- An unsigned integer below a bound, written without point and exponent. -/
def natBelow? (bound : Nat) : Decoder Json Nat
  | .number lexeme =>
      if lexeme.all Char.isDigit then
        let value := Number.digitsValue lexeme
        if value < bound then some value else none
      else none
  | _ => none

/-- A single-precision number. It is rounded to double precision first. -/
def single? : Decoder Json Number.Single
  | .number lexeme =>
      let (negative, magnitude) := Number.readSign lexeme
      (Number.readDecimal? magnitude).map (Number.Single.ofDecimalThroughDouble negative)
  | _ => none

/-- A list. -/
def list? {α : Type} (item : Decoder Json α) : Decoder Json (List α)
  | .list items => items.mapM item
  | _ => none

/-- A value, or null. -/
def option? {α : Type} (content : Decoder Json α) : Decoder Json (Option α)
  | .null => some none
  | value => (content value).map some

/-- The fields of a record with these names of fields. -/
def record? (known : List String) : Decoder Json (List (String × Json))
  | .object fields => some fields
  | .list items => if items.length ≤ known.length then some (known.zip items) else none
  | _ => none

/-- The name of a choice that carries nothing. -/
def choice? : Decoder Json String
  | .text name => some name
  | .object [(name, .null)] => some name
  | _ => none

/-- The name and the fields of an object with a single entry. -/
def filledChoice? : Decoder Json (String × List (String × Json))
  | .object [(name, .object fields)] => some (name, fields)
  | _ => none

/-- The form of JSON values. -/
def form : Form Json where
  text? := text?
  bool? := bool?
  word32? value := (natBelow? UInt32.size value).map UInt32.ofNat
  word64? value := (natBelow? UInt64.size value).map UInt64.ofNat
  single? := single?
  list? := list?
  option? := option?
  record? _ := record?
  choice? := choice?
  filledChoice? _ := filledChoice?

end Json
end Document
end QuestMod
