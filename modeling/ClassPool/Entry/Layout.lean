/-
Entries as bytes. A record is the tag byte of an entry and its payload: a number of its
width, one or two indices, or for a text a length of two bytes and that many bytes.

Writing puts the tag first and judges the length of a text afterwards, so a text that is too
long leaves its tag behind. Reading wants the whole record before it looks at a text, so a
record that is cut short is reported as such even when its text is malformed too.
-/
import ClassPool.Entry.Basic
import ClassPool.Number
import ClassPool.Text.Modified

set_option autoImplicit false

namespace ClassPool

namespace Entry

/-! ## 1. Writing -/

/-- How many bytes the record of an entry takes, tag included. -/
def encodedLength : Entry → Nat
  | utf8 text => 3 + (Text.Modified.encode text).length
  | integer _ | float _ => 5
  | long _ | double _ => 9
  | classRef _ | stringRef _ => 3
  | fieldRef _ _ | methodRef _ _ | nameAndType _ _ => 5

/-- Writes the payload of a text: its length and its bytes, if the length fits two bytes. -/
def writeText (text : String) : Writing :=
  let bytes := Text.Modified.encode text
  if bytes.length ≤ 0xFFFF then do
    (Number.u2 (UInt16.ofNat bytes.length)).write
    Sink.put bytes
  else throw (.textTooLong bytes.length)

/-- Writes what follows the tag. -/
def writePayload : Entry → Writing
  | utf8 text => writeText text
  | integer value => (Number.int value).write
  | float bits => (Number.float bits).write
  | long value => (Number.long value).write
  | double bits => Sink.put (BigEndian.encode 8 bits.toNat)
  | classRef index | stringRef index => (Number.u2 index).write
  | fieldRef first second | methodRef first second | nameAndType first second => do
    (Number.u2 first).write
    (Number.u2 second).write

/-- Writes the record of an entry. -/
def write (e : Entry) : Writing := do
  (Number.u1 e.tag.byte).write
  e.writePayload

/-! ## 2. Reading -/

end Entry

/-- Why no entry could be read. -/
inductive RecordFault where
  | unknownTag (tag : UInt8)
  /-- The bytes end inside the record. -/
  | endOfInput
  /-- The record is complete but its payload is no text. -/
  | malformedText (cause : Text.Malformed)
  deriving Repr, DecidableEq

namespace Entry

/-- What was read, or the end of the input as the fault. -/
def orEndOfInput {α : Type} : Option α → Except RecordFault α
  | some value => .ok value
  | none => .error .endOfInput

/-- Reads the payload of a text. -/
def readText (c : Cursor) : Except RecordFault (Entry × Cursor) := do
  let (length, c) ← orEndOfInput c.readIndex
  let (bytes, c) ← orEndOfInput (c.take length.toNat)
  match Text.read bytes with
  | .ok text => .ok (utf8 text, c)
  | .error cause => .error (.malformedText cause)

/-- Reads one index and makes an entry of it. -/
def readReference (make : UInt16 → Entry) (c : Cursor) : Except RecordFault (Entry × Cursor) := do
  let (index, c) ← orEndOfInput c.readIndex
  return (make index, c)

/-- Reads two indices and makes an entry of them. -/
def readReferences (make : UInt16 → UInt16 → Entry) (c : Cursor) :
    Except RecordFault (Entry × Cursor) := do
  let (first, c) ← orEndOfInput c.readIndex
  let (second, c) ← orEndOfInput c.readIndex
  return (make first second, c)

/-- Reads a number of the given width and makes an entry of its bits. -/
def readBits (width : Nat) (make : Nat → Entry) (c : Cursor) :
    Except RecordFault (Entry × Cursor) := do
  let (bits, c) ← orEndOfInput (c.readNat width)
  return (make bits, c)

/-- Reads what follows the tag. -/
def readPayload (tag : Tag) (c : Cursor) : Except RecordFault (Entry × Cursor) :=
  match tag with
  | .utf8 => readText c
  | .integer => readBits 4 (fun bits => integer (UInt32.ofNat bits).toInt32) c
  | .float => readBits 4 (fun bits => float (UInt32.ofNat bits)) c
  | .long => readBits 8 (fun bits => long (UInt64.ofNat bits).toInt64) c
  | .double => readBits 8 (fun bits => double (UInt64.ofNat bits)) c
  | .classRef => readReference classRef c
  | .stringRef => readReference stringRef c
  | .fieldRef => readReferences fieldRef c
  | .methodRef => readReferences methodRef c
  | .nameAndType => readReferences nameAndType c

/-- Reads the record that starts at the cursor, and gives the cursor behind it. -/
def read (c : Cursor) : Except RecordFault (Entry × Cursor) := do
  let (byte, c) ← orEndOfInput c.readByte
  match Tag.ofByte? byte with
  | some tag => readPayload tag c
  | none => .error (.unknownTag byte)

end Entry

end ClassPool
