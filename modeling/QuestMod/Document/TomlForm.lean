import QuestMod.Document.Form
import QuestMod.Document.TomlText

/-!
# The form of TOML documents

Records are tables. TOML has no value for what is missing: a missing value is left out.
Single-precision numbers and choices with fields do not occur in the documents that are
read here.
-/

namespace QuestMod
namespace Document
namespace Toml

/-- A text. -/
def text? : Decoder Toml String
  | .string text => some text
  | _ => none

/-- A truth value. -/
def bool? : Decoder Toml Bool
  | .boolean value => some value
  | _ => none

/-- An integer from zero up to below a bound. -/
def natBelow? (bound : Nat) : Decoder Toml Nat
  | .integer value => if 0 ≤ value ∧ value < bound then some value.toNat else none
  | _ => none

/-- A list. -/
def list? {α : Type} (item : Decoder Toml α) : Decoder Toml (List α)
  | .array items => items.mapM item
  | .tables elements => elements.mapM fun entries => item (.inline entries)
  | _ => none

/-- The entries of a table. -/
def fields? : Decoder Toml Entries
  | .inline entries => some entries
  | .table _ entries => some entries
  | _ => none

/-- The form of TOML documents. -/
def form : Form Toml where
  text? := text?
  bool? := bool?
  word32? value := (natBelow? UInt32.size value).map UInt32.ofNat
  word64? value := (natBelow? UInt64.size value).map UInt64.ofNat
  single? _ := none
  list? := list?
  option? content value := (content value).map some
  record? _ _ := fields?
  choice? := text?
  filledChoice? _ _ := none

end Toml
end Document
end QuestMod
