import QuestMod.Number.Single
import QuestMod.Path.Basic

/-!
# Forms of documents

Blueprints and settings are read from documents of several formats. A form tells how a
format writes texts, numbers, lists, records and choices, so what is read can be
described once for all formats.
-/

namespace QuestMod
namespace Document

/-- Takes a value of some type out of a document's value. -/
abbrev Decoder (V α : Type) : Type :=
  V → Option α

/-- How a format with values of type `V` writes data. -/
structure Form (V : Type) where
  text? : Decoder V String
  bool? : Decoder V Bool
  word32? : Decoder V UInt32
  word64? : Decoder V UInt64
  single? : Decoder V Number.Single
  list? : {α : Type} → Decoder V α → Decoder V (List α)
  /-- A value that may be missing. -/
  option? : {α : Type} → Decoder V α → Decoder V (Option α)
  /-- The fields of a record with a name and with names of fields. -/
  record? : String → List String → Decoder V (List (String × V))
  /-- The name of a choice that carries nothing. -/
  choice? : Decoder V String
  /-- The name of a choice and its fields, out of a table of names with names of
  fields. -/
  filledChoice? : List (String × List String) → Decoder V (String × List (String × V))

namespace Form

variable {V : Type} (form : Form V)

/-- A path. -/
def path? : Decoder V Path := fun value =>
  (form.text? value).map fun text : String => ⟨text⟩

end Form

section

variable {V α : Type}

/-- The field with a name, which must be present. -/
def required (fields : List (String × V)) (name : String) (decode : Decoder V α) : Option α :=
  (fields.lookup name).bind decode

/-- The field with a name, or its default when the field is missing. -/
def defaulted (fields : List (String × V)) (name : String) (default : α)
    (decode : Decoder V α) : Option α :=
  match fields.lookup name with
  | some value => decode value
  | none => some default

end

end Document
end QuestMod
