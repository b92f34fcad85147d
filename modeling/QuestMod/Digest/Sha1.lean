/-!
# The SHA-1 digest

A message is padded to blocks of sixteen 32-bit words. Each block is stretched to
eighty words and mixed into five chaining words, and the digest is the chaining
words after the last block.
-/

namespace QuestMod
namespace Digest

/-- The five chaining words. -/
structure Sha1State where
  a : UInt32
  b : UInt32
  c : UInt32
  d : UInt32
  e : UInt32
  deriving DecidableEq

namespace Sha1State

/-- Chaining words before the first block. -/
def start : Sha1State :=
  ⟨0x67452301, 0xEFCDAB89, 0x98BADCFE, 0x10325476, 0xC3D2E1F0⟩

/-- Word-wise sum of two states. -/
def add (first second : Sha1State) : Sha1State :=
  ⟨first.a + second.a, first.b + second.b, first.c + second.c, first.d + second.d,
    first.e + second.e⟩

/-- The five words in order. -/
def words (state : Sha1State) : List UInt32 :=
  [state.a, state.b, state.c, state.d, state.e]

end Sha1State

/-- Rotation of a word to the left. -/
def rotateLeft (word : UInt32) (amount : UInt32) : UInt32 :=
  (word <<< amount) ||| (word >>> (32 - amount))

/-- Mixing function and constant of a round. -/
def roundMix (round : Nat) (state : Sha1State) : UInt32 :=
  if round < 20 then
    ((state.b &&& state.c) ||| ((~~~ state.b) &&& state.d)) + 0x5A827999
  else if round < 40 then (state.b ^^^ state.c ^^^ state.d) + 0x6ED9EBA1
  else if round < 60 then
    ((state.b &&& state.c) ||| (state.b &&& state.d) ||| (state.c &&& state.d)) + 0x8F1BBCDC
  else (state.b ^^^ state.c ^^^ state.d) + 0xCA62C1D6

/-- One round: mix a schedule word into the state. -/
def mixWord (state : Sha1State) (round : Nat) (word : UInt32) : Sha1State where
  a := rotateLeft state.a 5 + roundMix round state + state.e + word
  b := state.a
  c := rotateLeft state.b 30
  d := state.c
  e := state.d

/-- The schedule grown by one word. The newest word stands first. -/
def growSchedule (schedule : List UInt32) : List UInt32 :=
  let word (back : Nat) : UInt32 := schedule[back - 1]?.getD 0
  rotateLeft (word 3 ^^^ word 8 ^^^ word 14 ^^^ word 16) 1 :: schedule

/-- The schedule grown a number of times. -/
def growScheduleTimes : Nat → List UInt32 → List UInt32
  | 0, schedule => schedule
  | times + 1, schedule => growScheduleTimes times (growSchedule schedule)

/-- The state after a block of sixteen words. -/
def absorbBlock (state : Sha1State) (block : List UInt32) : Sha1State :=
  let schedule := (growScheduleTimes 64 block.reverse).reverse
  let mixed :=
    schedule.zipIdx.foldl (fun current entry => mixWord current entry.2 entry.1) state
  state.add mixed

/-- Big-endian bytes of a number. -/
def bigEndian : Nat → Nat → List UInt8
  | 0, _ => []
  | count + 1, number => bigEndian count (number / 256) ++ [UInt8.ofNat (number % 256)]

/-- The message with its closing bit, zeros and its length in bits. -/
def padMessage (message : List UInt8) : List UInt8 :=
  let zeros := (119 - message.length % 64) % 64
  message ++ 0x80 :: List.replicate zeros 0 ++ bigEndian 8 (8 * message.length)

/-- Bytes read as big-endian words. Bytes that do not fill a word are left out. -/
def wordsOf : List UInt8 → List UInt32
  | a :: b :: c :: d :: rest =>
      (a.toUInt32 <<< 24 ||| b.toUInt32 <<< 16 ||| c.toUInt32 <<< 8 ||| d.toUInt32) ::
        wordsOf rest
  | _ => []

/-- The state after a number of blocks. -/
def absorbBlocks : Nat → Sha1State → List UInt32 → Sha1State
  | 0, state, _ => state
  | count + 1, state, words =>
      absorbBlocks count (absorbBlock state (words.take 16)) (words.drop 16)

/-- The twenty bytes of the SHA-1 digest. -/
def sha1 (message : List UInt8) : List UInt8 :=
  let words := wordsOf (padMessage message)
  (absorbBlocks (words.length / 16) .start words).words.flatMap
    fun word => bigEndian 4 word.toNat

end Digest
end QuestMod
