import QuestMod.Text.RawText
import QuestMod.Proofs.Text.LowerCase
import QuestMod.Proofs.Text.Split

/-!
# Texts among raw texts

A text is read back from its UTF-8, and only the UTF-8 of a text is read as one. ASCII
characters are single bytes that no other character has, so cutting the UTF-8 of a text at
one, or making it lower-case, is the same as doing so with the text.
-/

namespace QuestMod
namespace RawText

/-! ## Reading texts back -/

/-- What a text has been made of is read back. -/
theorem text?_ofText (text : String) : (ofText text).text? = some text :=
  dif_pos text.isValidUTF8

theorem eq_ofText_of_text?
    {raw : RawText}
    {text : String}
    (reads : raw.text? = some text) :
    raw = ofText text := by
  unfold text? String.fromUTF8? at reads
  split at reads
  · cases reads
    rfl
  · cases reads

theorem text?_eq_some_iff
    {raw : RawText}
    {text : String} :
    raw.text? = some text ↔ raw = ofText text :=
  ⟨eq_ofText_of_text?, fun equal => equal ▸ text?_ofText text⟩

/-- A part that may be missing is read as a text when it is there and is one. -/
theorem bind_text?_eq_some_iff
    {part : Option RawText}
    {text : String} :
    part.bind text? = some text ↔ part = some ↑text := by
  cases part with
  | none => simp
  | some raw => simp [text?_eq_some_iff]

/-- Different texts have different bytes. -/
theorem ofText_injective : Function.Injective ofText := by
  intro first second equal
  have reads := text?_ofText first
  rw [equal, text?_ofText] at reads
  exact (Option.some.inj reads).symm

/-- A text is shown as it is. -/
@[simp] theorem shown_ofText (text : String) : (ofText text).shown = text := by
  rw [shown, text?_ofText]

/-! ## Bytes of characters -/

theorem bytes_ofText (text : String) :
    (ofText text).bytes = text.toList.flatMap String.utf8EncodeChar := by
  have encoded : text.toUTF8 = (text.toList.flatMap String.utf8EncodeChar).toByteArray :=
    String.utf8Encode_toList.symm
  rw [ofText, encoded]
  simp

theorem bytes_append (first second : String) :
    (ofText (first ++ second)).bytes = (ofText first).bytes ++ (ofText second).bytes := by
  rw [bytes_ofText, bytes_ofText, bytes_ofText, String.toList_append, List.flatMap_append]

/-- The byte of an ASCII character. -/
def byteOf (c : Char) : UInt8 :=
  UInt8.ofNat c.toNat

theorem utf8EncodeChar_of_ascii
    {c : Char}
    (ascii : c.toNat < 0x80) :
    String.utf8EncodeChar c = [byteOf c] :=
  if_pos (Nat.le_of_lt_succ ascii)

/-- The bytes of other characters are none of ASCII characters. -/
theorem le_of_mem_utf8EncodeChar
    {c : Char}
    (notAscii : ¬ c.toNat < 0x80)
    {byte : UInt8}
    (member : byte ∈ String.utf8EncodeChar c) :
    0x80 ≤ byte.toNat := by
  have large : ¬ c.val.toNat ≤ 0x7f := by
    rw [Nat.not_le]
    exact Nat.not_lt.1 notAscii
  unfold String.utf8EncodeChar at member
  dsimp only at member
  rw [if_neg large] at member
  split at member
  · simp only [List.mem_cons, List.not_mem_nil, or_false] at member
    rcases member with rfl | rfl <;> simp <;> omega
  · split at member
    · simp only [List.mem_cons, List.not_mem_nil, or_false] at member
      rcases member with rfl | rfl | rfl <;> simp <;> omega
    · simp only [List.mem_cons, List.not_mem_nil, or_false] at member
      rcases member with rfl | rfl | rfl | rfl <;> simp <;> omega

theorem toNat_byteOf
    {c : Char}
    (ascii : c.toNat < 0x80) :
    (byteOf c).toNat = c.toNat :=
  UInt8.toNat_ofNat_of_lt' (Nat.lt_trans ascii (by decide))

/-- An ASCII character is told by its byte. -/
theorem byteOf_mem_utf8EncodeChar_iff
    {mark c : Char}
    (ascii : mark.toNat < 0x80) :
    byteOf mark ∈ String.utf8EncodeChar c ↔ c = mark := by
  by_cases single : c.toNat < 0x80
  · rw [utf8EncodeChar_of_ascii single, List.mem_singleton]
    constructor
    · intro equal
      have numbers := congrArg UInt8.toNat equal
      rw [toNat_byteOf ascii, toNat_byteOf single] at numbers
      exact (Char.toNat_inj.1 numbers).symm
    · rintro rfl
      rfl
  · constructor
    · intro member
      have large := le_of_mem_utf8EncodeChar single member
      rw [toNat_byteOf ascii] at large
      omega
    · rintro rfl
      exact absurd ascii single

/-- A text holds an ASCII character when its UTF-8 holds the byte. -/
theorem byteOf_mem_bytes_iff
    (mark : Char)
    (ascii : mark.toNat < 0x80)
    (text : String) :
    byteOf mark ∈ (ofText text).bytes ↔ mark ∈ text.toList := by
  rw [bytes_ofText, List.mem_flatMap]
  simp only [byteOf_mem_utf8EncodeChar_iff ascii, exists_eq_right]

/-- Cutting the UTF-8 of a text at an ASCII character cuts the text. -/
theorem splitAt_bytes
    (mark : Char)
    (ascii : mark.toNat < 0x80)
    (text : String) :
    Text.splitAt (byteOf mark) (ofText text).bytes =
      (Text.splitAt mark text.toList).map fun piece => (ofText (String.ofList piece)).bytes := by
  simp only [bytes_ofText, String.toList_ofList]
  induction text.toList with
  | nil => rfl
  | cons c rest ih =>
      rw [List.flatMap_cons]
      by_cases same : c = mark
      · subst same
        rw [utf8EncodeChar_of_ascii ascii, List.singleton_append, Text.splitAt_separator_cons,
          Text.splitAt_separator_cons, ih]
        rfl
      · obtain ⟨piece, pieces, splits⟩ :=
          List.exists_cons_of_ne_nil (Text.splitAt_ne_nil mark rest)
        rw [splits] at ih
        rw [Text.splitAt_append_of_not_mem
          (fun member => same ((byteOf_mem_utf8EncodeChar_iff ascii).1 member)) ih,
          Text.splitAt_cons_of_ne same splits]
        rfl

/-! ## Lower case -/

/-- The byte of a capital ASCII letter made that of the small one. -/
def lowerByte (byte : UInt8) : UInt8 :=
  if 0x41 ≤ byte ∧ byte ≤ 0x5A then byte + 0x20 else byte

/-- The raw text with its ASCII letters in lower case. -/
def folded (raw : RawText) : RawText :=
  ⟨raw.bytes.map lowerByte⟩

theorem lowerByte_lowerByte (byte : UInt8) : lowerByte (lowerByte byte) = lowerByte byte := by
  by_cases capital : 0x41 ≤ byte ∧ byte ≤ 0x5A
  · have small : ¬ (0x41 ≤ byte + 0x20 ∧ byte + 0x20 ≤ 0x5A) := by
      simp only [UInt8.le_iff_toNat_le, UInt8.toNat_add, UInt8.reduceToNat] at capital ⊢
      omega
    rw [lowerByte, lowerByte, if_pos capital, if_neg small]
  · rw [lowerByte, lowerByte, if_neg capital, if_neg capital]

/-- Folded bytes are not changed by folding them again. -/
@[simp] theorem folded_folded (raw : RawText) : raw.folded.folded = raw.folded := by
  simp [folded, lowerByte_lowerByte]

theorem map_lowerByte_utf8EncodeChar (c : Char) :
    (String.utf8EncodeChar c).map lowerByte = String.utf8EncodeChar c.toLower := by
  by_cases ascii : c.toNat < 0x80
  · have every : ∀ code : Fin 0x80, (String.utf8EncodeChar (Char.ofNat code)).map lowerByte =
        String.utf8EncodeChar (Char.ofNat code).toLower := by decide
    simpa using every ⟨c.toNat, ascii⟩
  · have same : c.toLower = c :=
      (Text.toLower_cases c).resolve_right fun capital => by omega
    have kept : ∀ byte ∈ String.utf8EncodeChar c, lowerByte byte = byte := by
      intro byte member
      have large := le_of_mem_utf8EncodeChar ascii member
      refine if_neg fun bounds => ?_
      have small : byte.toNat ≤ 0x5A := UInt8.le_iff_toNat_le.1 bounds.2
      omega
    rw [same, List.map_congr_left kept, List.map_id']

/-- Making a text lower-case is the same in its UTF-8. -/
@[simp] theorem folded_ofText (text : String) :
    (ofText text).folded = ofText (Text.foldCase text) := by
  have bytes : (ofText text).folded.bytes = (ofText (Text.foldCase text)).bytes := by
    rw [folded, bytes_ofText, bytes_ofText, Text.toList_foldCase, List.map_flatMap,
      List.flatMap_map]
    simp only [map_lowerByte_utf8EncodeChar]
  exact congrArg RawText.mk bytes

end RawText
end QuestMod
