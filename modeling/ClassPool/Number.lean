/-
The numbers of the class file format: unsigned numbers of one, two and four bytes, signed
ones of four and eight, and single-precision floats, which are carried as their bits so that
no NaN payload and no sign of zero is lost.

A number is written as its bits and read as bits, `ofBits_bits` being why nothing is lost on
the way; the byte order is the business of `BigEndian` alone.
-/
import ClassPool.Cursor
import ClassPool.Sink

set_option autoImplicit false

namespace ClassPool

/-- The kinds of numbers, by their names in the class file format. -/
inductive NumberType where
  /-- One unsigned byte. -/
  | u1
  /-- Two unsigned bytes. -/
  | u2
  /-- Four unsigned bytes. -/
  | u4
  /-- Four bytes in two's complement. -/
  | int
  /-- Eight bytes in two's complement. -/
  | long
  /-- Four bytes of a single-precision float. -/
  | float
  deriving Repr, DecidableEq

/-- A number together with its kind. -/
inductive Number where
  | u1 (value : UInt8)
  | u2 (value : UInt16)
  | u4 (value : UInt32)
  | int (value : Int32)
  | long (value : Int64)
  /-- The bits of the float. -/
  | float (bits : UInt32)
  deriving DecidableEq

/-- How many bytes a number of this kind takes. -/
def NumberType.width : NumberType → Nat
  | u1 => 1
  | u2 => 2
  | u4 => 4
  | int => 4
  | long => 8
  | float => 4

/-- Why a number could not be read. -/
inductive ReadError where
  /-- Fewer bytes remain than the number takes. -/
  | endOfInput
  deriving Repr, DecidableEq

namespace ReadError

def message : ReadError → String
  | endOfInput => "failed to fill whole buffer"

end ReadError

namespace Number

def type : Number → NumberType
  | u1 _ => .u1
  | u2 _ => .u2
  | u4 _ => .u4
  | int _ => .int
  | long _ => .long
  | float _ => .float

/-- The bits of a number, read as an unsigned one. -/
def bits : Number → Nat
  | u1 value => value.toNat
  | u2 value => value.toNat
  | u4 value => value.toNat
  | int value => value.toUInt32.toNat
  | long value => value.toUInt64.toNat
  | float bits => bits.toNat

/-- The number of a kind that has the given bits; bits beyond its width are dropped. -/
def ofBits : NumberType → Nat → Number
  | .u1, bits => u1 (UInt8.ofNat bits)
  | .u2, bits => u2 (UInt16.ofNat bits)
  | .u4, bits => u4 (UInt32.ofNat bits)
  | .int, bits => int (UInt32.ofNat bits).toInt32
  | .long, bits => long (UInt64.ofNat bits).toInt64
  | .float, bits => float (UInt32.ofNat bits)

/-- A number is determined by its kind and its bits. -/
@[simp] theorem ofBits_bits (number : Number) : ofBits number.type number.bits = number := by
  cases number <;> simp [type, bits, ofBits]

@[simp] theorem type_ofBits (type : NumberType) (bits : Nat) : (ofBits type bits).type = type := by
  cases type <;> rfl

/-! ## Writing and reading -/

/-- The bytes of a number, the most significant first. -/
def encode (number : Number) : List UInt8 :=
  BigEndian.encode number.type.width number.bits

/-- Writes a number in one go, so a sink that fills up keeps its leading bytes. -/
def write (number : Number) : Writing :=
  Sink.put number.encode

/-- Writes numbers in order and stops at the first that fails. -/
def writeAll : List Number → Writing
  | [] => pure ()
  | number :: numbers => do
    number.write
    writeAll numbers

/-- Reads a number of the given kind, or fails when too few bytes remain. -/
def read (type : NumberType) (c : Cursor) : Except ReadError (Number × Cursor) :=
  match c.readNat type.width with
  | some (bits, after) => .ok (ofBits type bits, after)
  | none => .error .endOfInput

end Number

/-- A run of reads from one cursor. -/
structure NumberRun where
  /-- The numbers that were read, each with the cursor right behind it. -/
  numbers : List (Number × Cursor)
  /-- Why the number behind them could not be read, if there was one left to read. -/
  outcome : Except ReadError Unit

namespace NumberRun

/-- Whether every number that was asked for could be read. -/
def complete (run : NumberRun) : Bool :=
  run.outcome.isOk

/-- Continues a run whose numbers so far are `done`, the latest first. -/
def continueFrom (c : Cursor) (done : List (Number × Cursor)) : List NumberType → NumberRun
  | [] => ⟨done.reverse, .ok ()⟩
  | type :: types =>
    match Number.read type c with
    | .error cause => ⟨done.reverse, .error cause⟩
    | .ok (number, after) => continueFrom after ((number, after) :: done) types

/-- Reads one number of each kind in order; the first that does not fit ends the run. -/
def read (types : List NumberType) (c : Cursor) : NumberRun :=
  continueFrom c [] types

end NumberRun

end ClassPool
