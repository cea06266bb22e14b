/-
Reading bytes. The class file format stores every number in a fixed count of bytes, the most
significant byte first. `BigEndian.encode` writes the low `width` bytes of a natural number and
`BigEndian.decode` reads any byte string as one number, so each is the inverse of the other on
numbers that fit.

Bytes are read from a position. A `Cursor` is an absolute position in a buffer together with the
bytes from there on. Everything that is read goes through `take`, which hands out exactly
the bytes that were asked for or nothing at all, so a value that does not fit leaves no
trace. `take_eq_some_iff` says all there is to know about it: the bytes that were read stand
in front of the rest, and the position moves by their number.
-/

set_option autoImplicit false

namespace ClassPool

/-! ## 1. Big-endian naturals -/

namespace BigEndian

/-- The low `width` bytes of a number, the most significant first. -/
def encode : (width n : Nat) → List UInt8
  | 0, _ => []
  | width + 1, n => encode width (n / 256) ++ [UInt8.ofNat n]

/-- The number that a byte string denotes, the first byte being the most significant. -/
def decode (bytes : List UInt8) : Nat :=
  bytes.foldl (fun n b => 256 * n + b.toNat) 0

@[simp] theorem length_encode (width n : Nat) : (encode width n).length = width := by
  induction width generalizing n with
  | zero => rfl
  | succ width ih => simp [encode, ih]

/-- One more byte shifts what was read by its weight. -/
theorem decode_append_byte (bytes : List UInt8) (b : UInt8) :
    decode (bytes ++ [b]) = 256 * decode bytes + b.toNat := by
  simp [decode, List.foldl_append]

end BigEndian

/-! ## 2. Cursors -/

/-- An absolute position in a buffer and the bytes that follow it. -/
structure Cursor where
  /-- The number of bytes in front of the cursor, counted from the start of the buffer. -/
  position : Nat
  /-- The bytes from the position on. -/
  rest : List UInt8
  deriving Repr, DecidableEq

namespace Cursor

/-- The cursor at an offset into a buffer. An offset past the end is allowed and leaves no bytes. -/
def into (buffer : List UInt8) (offset : Nat) : Cursor :=
  ⟨offset, buffer.drop offset⟩

/-- Exactly `n` bytes and the cursor behind them, or nothing when fewer remain. -/
def take (c : Cursor) (n : Nat) : Option (List UInt8 × Cursor) :=
  let front := c.rest.take n
  if front.length = n then some (front, ⟨c.position + n, c.rest.drop n⟩) else none

/-- A number stored in `width` bytes, the most significant first. -/
def readNat (c : Cursor) (width : Nat) : Option (Nat × Cursor) :=
  (c.take width).map fun (bytes, after) => (BigEndian.decode bytes, after)

def readByte (c : Cursor) : Option (UInt8 × Cursor) :=
  (c.readNat 1).map fun (n, after) => (UInt8.ofNat n, after)

/-- An unsigned number of two bytes, the width of counts, lengths and indices. -/
def readIndex (c : Cursor) : Option (UInt16 × Cursor) :=
  (c.readNat 2).map fun (n, after) => (UInt16.ofNat n, after)

/-- Bytes are read exactly when they stand in front of what is left. -/
theorem take_eq_some_iff {c after : Cursor} {n : Nat} {bytes : List UInt8} :
    c.take n = some (bytes, after) ↔
      c.rest = bytes ++ after.rest ∧ bytes.length = n ∧ after.position = c.position + n := by
  obtain ⟨position, rest⟩ := after
  simp only [take]
  constructor
  · intro h
    split at h
    · rename_i full
      simp only [Option.some.injEq, Prod.mk.injEq, Cursor.mk.injEq] at h
      obtain ⟨rfl, rfl, rfl⟩ := h
      exact ⟨(List.take_append_drop n c.rest).symm, full, rfl⟩
    · simp at h
  · rintro ⟨whole, rfl, rfl⟩
    simp [whole]

/-- Nothing is read exactly when fewer bytes remain than were asked for. -/
theorem take_eq_none_iff {c : Cursor} {n : Nat} : c.take n = none ↔ c.rest.length < n := by
  simp only [take, List.length_take]
  split <;> simp <;> omega

end Cursor

end ClassPool
