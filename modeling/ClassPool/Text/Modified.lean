/-
Modified UTF-8, the encoding of text in class files. It works on 16-bit units and not on
characters: a unit takes one byte up to 7F, two bytes up to 7FF and three beyond, so the
two halves of a surrogate pair are written one by one. The unit zero is written in two
bytes, and therefore no encoded text holds a zero byte.

Reading is more liberal than writing. Forms longer than necessary are accepted, and so is a
zero byte; the lead byte alone decides how long a sequence is. Bytes are judged before
surrogates: a bad byte is reported even when an unpaired surrogate stands in front of it.
Positions in what is reported count the bytes of the text itself, from zero, and not those of the
buffer that the text stands in.

A stored text may be in standard UTF-8 as well. A payload that is valid standard UTF-8 is that
text; any other payload is read as modified UTF-8, which adds the two-byte zero and the
surrogates written one by one. Where both readings succeed they agree, except that only
the standard one knows sequences of four bytes.
-/
import ClassPool.Numeral
import ClassPool.Text.Utf16

set_option autoImplicit false

namespace ClassPool.Text

/-- Why bytes are no text. -/
inductive Malformed where
  /-- The bytes end inside a sequence. -/
  | partialCharacter
  /-- The byte at this position can neither start nor continue a sequence. -/
  | unexpectedByte (position : Nat)
  /-- A surrogate without its other half. -/
  | unpairedSurrogate (unit : UInt16)
  deriving Repr, DecidableEq

def Malformed.message : Malformed → String
  | partialCharacter => "Malformed Input: Partial character at end"
  | unexpectedByte position => "Malformed Input around byte: " ++ Numeral.decimal position
  | unpairedSurrogate unit => "unpaired surrogate found: " ++ Numeral.hex unit.toNat

namespace Modified

/-! ## 1. Writing -/

/-- The bytes of a unit, in the shortest form except that zero takes two bytes. -/
def encodeUnit (unit : UInt16) : List UInt8 :=
  let n := unit.toNat
  if n ≠ 0 ∧ n < 0x80 then
    [UInt8.ofNat n]
  else if n < 0x800 then
    [UInt8.ofNat (0xC0 + n / 0x40), UInt8.ofNat (0x80 + n % 0x40)]
  else
    [UInt8.ofNat (0xE0 + n / 0x1000), UInt8.ofNat (0x80 + n / 0x40 % 0x40),
     UInt8.ofNat (0x80 + n % 0x40)]

/-- The bytes of a text. Every text has some. -/
def encode (s : String) : List UInt8 :=
  (Utf16.units s).flatMap encodeUnit

/-! ## 2. Reading -/

/-- The sequences by their number of bytes. -/
inductive Form where
  | one
  | two
  | three
  deriving Repr, DecidableEq

/-- The sequence that a byte starts, as announced by its leading bits. -/
def Form.ofLead? (lead : UInt8) : Option Form :=
  if lead.toNat < 0x80 then some one
  else if lead.toNat < 0xC0 then none
  else if lead.toNat < 0xE0 then some two
  else if lead.toNat < 0xF0 then some three
  else none

/-- Whether a byte may stand behind the first of a sequence. -/
def isContinuation (byte : UInt8) : Bool :=
  0x80 ≤ byte.toNat && byte.toNat < 0xC0

/-- The unit of a two-byte sequence: five bits of the first byte and six of the second. -/
def unitOfTwo (lead second : UInt8) : UInt16 :=
  UInt16.ofNat (lead.toNat % 0x20 * 0x40 + second.toNat % 0x40)

/-- The unit of a three-byte sequence: four bits of the first byte and six of each other. -/
def unitOfThree (lead second third : UInt8) : UInt16 :=
  UInt16.ofNat (lead.toNat % 0x10 * 0x1000 + second.toNat % 0x40 * 0x40 + third.toNat % 0x40)

/-- Reads the units of the bytes from `position` on, behind units that are already known, the
latest first. -/
def unitsFrom (position : Nat) (done : List UInt16) : List UInt8 → Except Malformed (List UInt16)
  | [] => .ok done.reverse
  | lead :: rest =>
    match Form.ofLead? lead with
    | some .one => unitsFrom (position + 1) (UInt16.ofNat lead.toNat :: done) rest
    | some .two =>
      match rest with
      | [] => .error .partialCharacter
      | second :: rest =>
        if isContinuation second then
          unitsFrom (position + 2) (unitOfTwo lead second :: done) rest
        else .error (.unexpectedByte (position + 1))
    | some .three =>
      match rest with
      | [] => .error .partialCharacter
      | [second] =>
        if isContinuation second then .error .partialCharacter
        else .error (.unexpectedByte (position + 1))
      | second :: third :: rest =>
        if isContinuation second then
          if isContinuation third then
            unitsFrom (position + 3) (unitOfThree lead second third :: done) rest
          else .error (.unexpectedByte (position + 2))
        else .error (.unexpectedByte (position + 1))
    | none => .error (.unexpectedByte position)

/-- The 16-bit units that bytes stand for. -/
def decodeUnits (bytes : List UInt8) : Except Malformed (List UInt16) :=
  unitsFrom 0 [] bytes

/-- The text that bytes stand for: units first, then their pairs are joined. -/
def decode (bytes : List UInt8) : Except Malformed String :=
  match decodeUnits bytes with
  | .error fault => .error fault
  | .ok units =>
    match Utf16.join units with
    | .error unit => .error (.unpairedSurrogate unit)
    | .ok chars => .ok (String.ofList chars)

end Modified

/-! ## 3. Reading either form -/

/-- The text whose standard UTF-8 form the bytes are, if there is one. -/
def standard? (bytes : List UInt8) : Option String :=
  String.fromUTF8? bytes.toByteArray

/-- The text of a payload: standard UTF-8 where it is valid, modified UTF-8 otherwise. -/
def read (bytes : List UInt8) : Except Malformed String :=
  match standard? bytes with
  | some s => .ok s
  | none => Modified.decode bytes

end ClassPool.Text
