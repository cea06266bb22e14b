/-
The MD5 digest, which tells files apart in the log. The message is filled up to blocks of 64
bytes: a byte with its top bit set, zeros, and the length of the message in bits as eight
bytes, the least significant first. Each block then goes through 64 steps that stir its
sixteen words into a state of four, and what the steps make of the state is added to it.
-/
import ClassPool.Numeral

set_option autoImplicit false

namespace ClassPool.Digest.Md5

/-! ## 1. The steps -/

/-- The addend of each step: the fraction of the absolute sine of the step's number, counted
from one, in units of `2 ^ -32`. -/
def addends : List UInt32 :=
  [0xD76AA478, 0xE8C7B756, 0x242070DB, 0xC1BDCEEE,
    0xF57C0FAF, 0x4787C62A, 0xA8304613, 0xFD469501,
    0x698098D8, 0x8B44F7AF, 0xFFFF5BB1, 0x895CD7BE,
    0x6B901122, 0xFD987193, 0xA679438E, 0x49B40821,
    0xF61E2562, 0xC040B340, 0x265E5A51, 0xE9B6C7AA,
    0xD62F105D, 0x02441453, 0xD8A1E681, 0xE7D3FBC8,
    0x21E1CDE6, 0xC33707D6, 0xF4D50D87, 0x455A14ED,
    0xA9E3E905, 0xFCEFA3F8, 0x676F02D9, 0x8D2A4C8A,
    0xFFFA3942, 0x8771F681, 0x6D9D6122, 0xFDE5380C,
    0xA4BEEA44, 0x4BDECFA9, 0xF6BB4B60, 0xBEBFBC70,
    0x289B7EC6, 0xEAA127FA, 0xD4EF3085, 0x04881D05,
    0xD9D4D039, 0xE6DB99E5, 0x1FA27CF8, 0xC4AC5665,
    0xF4292244, 0x432AFF97, 0xAB9423A7, 0xFC93A039,
    0x655B59C3, 0x8F0CCC92, 0xFFEFF47D, 0x85845DD1,
    0x6FA87E4F, 0xFE2CE6E0, 0xA3014314, 0x4E0811A1,
    0xF7537E82, 0xBD3AF235, 0x2AD7D2BB, 0xEB86D391]

/-- How one of the four rounds of sixteen steps works. -/
structure Round where
  /-- How many bits the steps rotate by, in turn. -/
  rotations : List UInt32
  /-- Mixes three words of the state. -/
  mix : UInt32 → UInt32 → UInt32 → UInt32
  /-- Which word of the block a step takes, by the number of the step. -/
  word : Nat → Nat

def rounds : List Round :=
  [⟨[7, 12, 17, 22], fun b c d => (b &&& c) ||| (~~~b &&& d), fun i => i⟩,
   ⟨[5, 9, 14, 20], fun b c d => (d &&& b) ||| (~~~d &&& c), fun i => (5 * i + 1) % 16⟩,
   ⟨[4, 11, 16, 23], fun b c d => b ^^^ c ^^^ d, fun i => (3 * i + 5) % 16⟩,
   ⟨[6, 10, 15, 21], fun b c d => c ^^^ (b ||| ~~~d), fun i => 7 * i % 16⟩]

/-- The state between steps. -/
structure State where
  a : UInt32
  b : UInt32
  c : UInt32
  d : UInt32
  deriving Repr, DecidableEq

def State.initial : State :=
  ⟨0x67452301, 0xEFCDAB89, 0x98BADCFE, 0x10325476⟩

def rotateLeft (x amount : UInt32) : UInt32 :=
  (x <<< amount) ||| (x >>> (32 - amount))

/-- One step of a round on the words of a block. -/
def Round.step (round : Round) (words : Array UInt32) (state : State) (number : Nat)
    (addend : UInt32) : State :=
  let mixed := state.a + round.mix state.b state.c state.d + addend +
    words.getD (round.word number) 0
  let turned := rotateLeft mixed (round.rotations.getD (number % 4) 0)
  ⟨state.d, state.b + turned, state.b, state.c⟩

/-- The sixteen steps of a round; steps are numbered through all rounds. -/
def Round.run (round : Round) (words : Array UInt32) (first : Nat) (state : State) : State :=
  let numbered := (addends.drop first).take 16
  (numbered.foldl
    (fun (progress : State × Nat) addend =>
      (round.step words progress.1 progress.2 addend, progress.2 + 1))
    (state, first)).1

/-! ## 2. Blocks -/

/-- The words of a block, the least significant byte of each first. -/
def wordsOf : List UInt8 → List UInt32
  | a :: b :: c :: d :: rest =>
    (a.toUInt32 ||| (b.toUInt32 <<< 8) ||| (c.toUInt32 <<< 16) ||| (d.toUInt32 <<< 24)) ::
      wordsOf rest
  | _ => []

/-- Stirs a block into the state. -/
def State.absorb (state : State) (block : List UInt8) : State :=
  let words := (wordsOf block).toArray
  let stirred := (rounds.foldl
    (fun (progress : State × Nat) round =>
      (round.run words progress.2 progress.1, progress.2 + 16))
    (state, 0)).1
  ⟨state.a + stirred.a, state.b + stirred.b, state.c + stirred.c, state.d + stirred.d⟩

/-- Stirs every block of the bytes into the state. -/
def State.absorbAll (state : State) : List UInt8 → State
  | [] => state
  | byte :: rest => (state.absorb ((byte :: rest).take 64)).absorbAll (rest.drop 63)
termination_by bytes => bytes.length
decreasing_by
  rw [List.length_drop, List.length_cons]
  omega

/-! ## 3. The message -/

/-- The low `width` bytes of a number, the least significant first. -/
def littleEndian : (width n : Nat) → List UInt8
  | 0, _ => []
  | width + 1, n => UInt8.ofNat n :: littleEndian width (n / 256)

/-- The message filled up to whole blocks. -/
def pad (message : List UInt8) : List UInt8 :=
  let zeros := (119 - message.length % 64) % 64
  message ++ 0x80 :: (List.replicate zeros 0 ++ littleEndian 8 (8 * message.length))

/-- The digest of a message: the sixteen bytes of the final state. -/
def digest (message : List UInt8) : List UInt8 :=
  let final := State.initial.absorbAll (pad message)
  [final.a, final.b, final.c, final.d].flatMap fun word => littleEndian 4 word.toNat

/-- The digest as it is written: two lower-case hexadecimal digits a byte. -/
def checksum (message : List UInt8) : String :=
  Numeral.hexBytes (digest message)

end ClassPool.Digest.Md5
