import QuestMod.Text.Blank

/-!
# Raw texts

The operating system hands names over as bytes. Mostly they are the UTF-8 of a text, but
any other bytes are possible too. Raw texts are compared byte by byte. One is read as a
text only if its bytes are valid UTF-8, and is shown with a replacement character for every
run of bytes that no character begins or goes on with.
-/

namespace QuestMod

/-- A text as bytes, which need not be valid UTF-8. -/
structure RawText where
  bytes : List UInt8
  deriving DecidableEq

namespace RawText

/-- The UTF-8 of a text. -/
def ofText (text : String) : RawText :=
  ⟨text.toUTF8.data.toList⟩

instance : Coe String RawText :=
  ⟨ofText⟩

/-- The text with these bytes, if they are valid UTF-8. -/
def text? (raw : RawText) : Option String :=
  String.fromUTF8? ⟨raw.bytes.toArray⟩

/-! ## Showing raw texts -/

/-- A character of which some bytes have been read. -/
structure Begun where
  bytes : List UInt8
  /-- How many bytes are missing behind the next one. -/
  later : Nat
  /-- The least next byte that goes on with the character. -/
  least : UInt8
  /-- The greatest next byte that goes on with the character. -/
  greatest : UInt8

/-- A character of several bytes, of which the first one has been read. What stands behind
some first bytes is bounded more closely: shorter forms, surrogates and numbers that are too
large are no characters. -/
def Begun.ofFirst? (first : UInt8) : Option Begun :=
  if first < 0xC2 then none
  else if first < 0xE0 then some ⟨[first], 0, 0x80, 0xBF⟩
  else if first = 0xE0 then some ⟨[first], 1, 0xA0, 0xBF⟩
  else if first = 0xED then some ⟨[first], 1, 0x80, 0x9F⟩
  else if first < 0xF0 then some ⟨[first], 1, 0x80, 0xBF⟩
  else if first = 0xF0 then some ⟨[first], 2, 0x90, 0xBF⟩
  else if first < 0xF4 then some ⟨[first], 2, 0x80, 0xBF⟩
  else if first = 0xF4 then some ⟨[first], 2, 0x80, 0x8F⟩
  else none

/-- The runs that a byte ends when no character has begun, and what begins with it. -/
def start (byte : UInt8) : List (List UInt8) × Option Begun :=
  match Begun.ofFirst? byte with
  | some begun => ([], some begun)
  | none => ([[byte]], none)

/-- The runs that a byte ends when a character has begun, and what has begun behind it. -/
def Begun.next (begun : Begun) (byte : UInt8) : List (List UInt8) × Option Begun :=
  if begun.least ≤ byte ∧ byte ≤ begun.greatest then
    match begun.later with
    | 0 => ([begun.bytes ++ [byte]], none)
    | later + 1 => ([], some ⟨begun.bytes ++ [byte], later, 0x80, 0xBF⟩)
  else
    let (runs, state) := start byte
    (begun.bytes :: runs, state)

/-- Cuts bytes into those of single characters and runs that are no character. Such a run
is one byte, or as much as a character begins with. -/
def cut : Option Begun → List UInt8 → List (List UInt8)
  | state, [] => state.toList.map (·.bytes)
  | state, byte :: rest =>
      let (runs, state) :=
        match state with
        | some begun => begun.next byte
        | none => start byte
      runs ++ cut state rest

/-- The text as it is shown. -/
def shown (raw : RawText) : String :=
  match raw.text? with
  | some text => text
  | none => String.join ((cut none raw.bytes).map fun run => (text? ⟨run⟩).getD "\uFFFD")

end RawText
end QuestMod
