/-
Decoding a pool. Decoding starts at the count and reads records as long as the next index
is below the count. It is all or nothing: the first record that cannot be read ends it with
an error that names the record by its index and by the offset of its tag byte. A long or a
double in the last slot may reach past the count and is kept.

What was seen on the way is part of the answer: `Decoding.records` holds every record that
was read, with the offset of its tag byte, whether or not decoding came to its end.
-/
import ClassPool.Entry.Layout
import ClassPool.Pool.Basic

set_option autoImplicit false

namespace ClassPool

/-! ## 1. Errors -/

/-- Why no pool could be decoded. Offsets count from the start of the buffer. -/
inductive DecodeError where
  /-- The buffer ends inside the record of this index, which starts at this offset. The count
  has index zero. -/
  | cutShort (index offset : Nat)
  /-- The byte at this offset announces no kind that is recognised. -/
  | unknownTag (tag : UInt8) (offset : Nat)
  /-- The record of this index, which starts at this offset, holds a payload that is no text. -/
  | malformedText (index offset : Nat) (cause : Text.Malformed)
  deriving Repr, DecidableEq

namespace DecodeError

def message : DecodeError → String
  | cutShort index offset =>
    "Unexpected end of buffer in constant pool entry #" ++ Numeral.decimal index ++
      " starting at offset " ++ Numeral.offset offset
  | unknownTag tag offset =>
    "Unrecognized constant pool tag " ++ Numeral.decimal tag.toNat ++
      " at offset " ++ Numeral.offset offset
  | malformedText index offset cause =>
    "Malformed text in constant pool entry #" ++ Numeral.decimal index ++
      " at offset " ++ Numeral.offset offset ++ ": " ++ cause.message

def cause? : DecodeError → Option String
  | malformedText _ _ cause => some cause.message
  | _ => none

/-- The error of the record with the given index and offset. -/
def ofFault (index offset : Nat) : RecordFault → DecodeError
  | .unknownTag tag => unknownTag tag offset
  | .endOfInput => cutShort index offset
  | .malformedText cause => malformedText index offset cause

end DecodeError

/-! ## 2. Records -/

/-- A record as it was met in a buffer. -/
structure Record where
  index : Nat
  /-- The offset of the tag byte. -/
  offset : Nat
  entry : Entry
  deriving DecidableEq

/-- What a decode saw and how it ended. -/
structure Decoding where
  /-- Every record that was read, in order. -/
  records : List Record
  outcome : Except DecodeError Pool

namespace Record

/-- Reads records while the index is below the count, behind records that are already known,
the latest first. Gives all records and, unless one could not be read, the cursor at the end. -/
def readOnto (count : Nat) (done : List Record) (index : Nat) (c : Cursor) :
    List Record × Except DecodeError Cursor :=
  if index < count then
    match Entry.read c with
    | .ok (entry, after) =>
      readOnto count (⟨index, c.position, entry⟩ :: done) (index + entry.slots) after
    | .error fault => (done.reverse, .error (.ofFault index c.position fault))
  else (done.reverse, .ok c)
termination_by count - index
decreasing_by
  have := entry.slots_pos
  omega

end Record

/-! ## 3. The pool -/

namespace Pool

/-- Decodes the pool whose count stands at an offset of a buffer, and keeps what was seen. -/
def decoding (buffer : List UInt8) (start : Nat) : Decoding :=
  match (Cursor.into buffer start).readIndex with
  | none => ⟨[], .error (.cutShort 0 start)⟩
  | some (count, c) =>
    let (records, ending) := Record.readOnto count.toNat [] 1 c
    ⟨records, ending.map fun last => ⟨count, records.map Record.entry, last.position⟩⟩

/-- Decodes the pool whose count stands at an offset of a buffer. -/
def decode (buffer : List UInt8) (start : Nat) : Except DecodeError Pool :=
  (decoding buffer start).outcome

end Pool

end ClassPool
