import QuestMod.Document.Form
import QuestMod.Document.RonNumber
import QuestMod.Document.RonText

/-!
# The form of RON documents

Records may carry the name of what they describe. Entries that are no field of a record
are ignored, but a field may not be repeated.

Every value is taken with the number of levels that may still open below it. A list, a
map, a record or a tuple opens a level for itself and one for each of its parts, and
the mark of an optional value opens one level.
-/

namespace QuestMod
namespace Document
namespace Ron

mutual

/-- The value may stand where it is ignored, with a number of levels left for it. -/
def isIgnorable : Nat → Ron → Bool
  | _, .word _ => true
  | _, .number lexeme => isNumberForm lexeme
  | _, .text _ => true
  | _, .literal => true
  | _, .unit => true
  | levels + 1, .list items => areIgnorable levels items
  | levels + 1, .map entries => areIgnorableEntries levels entries
  | levels + 1, .tuple _ items => areIgnorable levels items
  | levels + 1, .record _ fields => areIgnorableFields levels fields
  | levels + 1, .unwrapped fields => areIgnorableFields levels fields
  | levels + 1, .bareMark content => isIgnorable levels content
  | levels + 1, .marked .one [content] => isIgnorable levels content
  | levels + 2, .marked .several items => areIgnorable levels items
  | _, _ => false

/-- The values may stand as ignored parts. -/
def areIgnorable : Nat → List Ron → Bool
  | _, [] => true
  | 0, _ :: _ => false
  | levels + 1, item :: items => isIgnorable levels item && areIgnorable (levels + 1) items

/-- The keys and values may stand as ignored parts. -/
def areIgnorableEntries : Nat → List (Ron × Ron) → Bool
  | _, [] => true
  | 0, _ :: _ => false
  | levels + 1, (key, content) :: entries =>
      isIgnorable levels key && isIgnorable levels content &&
        areIgnorableEntries (levels + 1) entries

/-- The fields may stand as ignored parts. -/
def areIgnorableFields : Nat → List (String × Ron) → Bool
  | _, [] => true
  | 0, _ :: _ => false
  | levels + 1, (_, content) :: fields =>
      isIgnorable levels content && areIgnorableFields (levels + 1) fields

end

/-- A value with the number of levels that may open below it. -/
structure Placed where
  levels : Nat
  value : Ron

/-- The value of a whole document. -/
def Placed.root (value : Ron) : Placed :=
  ⟨levelLimit, value⟩

/-- A text. -/
def text? : Decoder Placed String
  | ⟨_, .text content⟩ => some content
  | _ => none

/-- A truth value. -/
def bool? : Decoder Placed Bool
  | ⟨_, .word ⟨"true", false⟩⟩ => some true
  | ⟨_, .word ⟨"false", false⟩⟩ => some false
  | _ => none

/-- An unsigned integer of a number of bits. -/
def unsigned? (bits : Nat) : Decoder Placed Nat
  | ⟨_, .number lexeme⟩ => readUnsigned? bits lexeme
  | _ => none

/-- A single-precision number. -/
def single? : Decoder Placed Number.Single
  | ⟨_, .number lexeme⟩ => readFloat? "f32" lexeme
  | ⟨_, .word ⟨name, false⟩⟩ => specialNumber? "f32" name
  | _ => none

/-- A list. -/
def list? {α : Type} (item : Decoder Placed α) : Decoder Placed (List α)
  | ⟨levels + 2, .list items⟩ => items.mapM fun value => item ⟨levels, value⟩
  | _ => none

/-- A name without parentheses. -/
def name? : Decoder Placed String
  | ⟨_ + 2, .word ⟨name, _⟩⟩ => some name
  | _ => none

/-- The value is a record in parentheses of its own. -/
def isRecord : Ron → Bool
  | .record _ _ => true
  | _ => false

/-- A value that may be missing. Where marks are fused with the records in them, a
marked record has no parentheses of its own. -/
def option? (extensions : Extensions) {α : Type} (content : Decoder Placed α) :
    Decoder Placed (Option α)
  | ⟨_, .word ⟨"None", false⟩⟩ => some none
  | ⟨levels + 1, .marked _ [value]⟩ =>
      if extensions.unwrapVariants && value.isRecord then none
      else (content ⟨levels, value⟩).map some
  | ⟨levels + 1, .bareMark value⟩ => (content ⟨levels, value⟩).map some
  | ⟨levels + 1, value⟩ =>
      if extensions.implicitSome then (content ⟨levels, value⟩).map some else none
  | _ => none

/-- The known fields, provided that none is repeated and that all others may be ignored
with a number of levels left for them. -/
def knownFields? (known : List String) (levels : Nat) (fields : List (String × Ron)) :
    Option (List (String × Placed)) :=
  let (own, others) := fields.partition fun field => known.contains field.1
  if (own.map (·.1)).Nodup && others.all fun field => isIgnorable levels field.2 then
    some (own.map fun field => (field.1, ⟨levels, field.2⟩))
  else none

/-- The known fields of a record that describes something with a name. -/
def record? (extensions : Extensions) (name : String) (known : List String) :
    Decoder Placed (List (String × Placed))
  | ⟨levels + 2, .record none fields⟩ =>
      if extensions.explicitNames then none else knownFields? known levels fields
  | ⟨levels + 2, .record (some written) fields⟩ =>
      if written = name then knownFields? known levels fields else none
  | ⟨levels + 2, .unwrapped fields⟩ => knownFields? known levels fields
  | _ => none

/-- The name of a choice and its fields. A choice opens one more level than a record. -/
def filledChoice? (choices : List (String × List String)) :
    Decoder Placed (String × List (String × Placed))
  | ⟨levels + 3, .record (some name) fields⟩ => do
      let known ← choices.lookup name
      return (name, ← knownFields? known levels fields)
  | _ => none

/-- The form of RON documents with some extensions. -/
def form (extensions : Extensions) : Form Placed where
  text? := text?
  bool? := bool?
  word32? value := (unsigned? 32 value).map UInt32.ofNat
  word64? value := (unsigned? 64 value).map UInt64.ofNat
  single? := single?
  list? := list?
  option? := option? extensions
  record? := record? extensions
  choice? := name?
  filledChoice? := filledChoice?

end Ron
end Document
end QuestMod
