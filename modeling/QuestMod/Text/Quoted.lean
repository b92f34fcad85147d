import QuestMod.Text.Ranges
import QuestMod.Text.PrintableRanges

/-!
# Quoted text in messages

The form in which a message shows a text that may hold anything: between double
quotes, with escapes for quotes, backslashes, common controls and every character
without a shape of its own.
-/

namespace QuestMod
namespace Text

/-- The character can be shown as it is. -/
def isPrintable (c : Char) : Bool :=
  if c.toNat < 0x80 then 0x20 ≤ c.toNat && c.toNat ≤ 0x7E
  else
    !(inRanges PrintableRanges.extending c || inRanges PrintableRanges.basicShapeless c ||
      inRanges PrintableRanges.supplementaryShapeless c)

/-- Hexadecimal digits of a number in lower case, without leading zeros. -/
def hexDigits (number : Nat) : List Char :=
  Nat.toDigits 16 number

/-- How a quoted text shows one character. -/
def quoteCharacter (c : Char) : List Char :=
  if c = '\x00' then ['\\', '0']
  else if c = '\t' then ['\\', 't']
  else if c = '\r' then ['\\', 'r']
  else if c = '\n' then ['\\', 'n']
  else if c = '\\' then ['\\', '\\']
  else if c = '"' then ['\\', '"']
  else if isPrintable c then [c]
  else ['\\', 'u', '{'] ++ hexDigits c.toNat ++ ['}']

/-- The text between double quotes, with escapes. -/
def quoted (text : String) : String :=
  String.ofList (['"'] ++ text.toList.flatMap quoteCharacter ++ ['"'])

end Text
end QuestMod
