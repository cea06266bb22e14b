/-
Reading numbers from a cursor. Big-endian reading is the inverse of writing: `decode_encode` says
that a number comes back as far as the width holds it, and `encode_decode` that every byte string
is the encoding of the number it denotes. Both are inductions on the last byte, the one that a
division by 256 splits off.

A number that stands in front of a cursor in its width is read as that number and the cursor moves
behind it; where fewer bytes remain than the width takes, nothing is read. The two cover every
cursor, because any `width` bytes are the encoding of some number (`exists_encode_append`), so no
other lemma about reads is needed further up.
-/
import ClassPool.Cursor
import Mathlib.Algebra.Ring.Nat
import Mathlib.Data.List.Induction

set_option autoImplicit false

namespace ClassPool

namespace BigEndian

/-! ## 1. Encodings -/

/-- What is read back is the number as far as the width holds it. -/
theorem decode_encode (width n : Nat) : decode (encode width n) = n % 256 ^ width := by
  induction width generalizing n with
  | zero => simp [encode, decode, Nat.mod_one]
  | succ width ih =>
    have last : (UInt8.ofNat n).toNat = n % 256 := by simp
    rw [encode, decode_append_byte, ih, last]
    rw [Nat.pow_succ, Nat.mul_comm (256 ^ width) 256, Nat.mod_mul]
    omega

/-- A byte string denotes a number below `256` to the power of its length. -/
theorem decode_lt (bytes : List UInt8) : decode bytes < 256 ^ bytes.length := by
  induction bytes using List.reverseRecOn with
  | nil => simp [decode]
  | append_singleton bytes b ih =>
    have byte : b.toNat < 256 := b.toNat_lt
    rw [decode_append_byte, List.length_append, List.length_singleton, Nat.pow_succ]
    omega

/-- Writing what was read gives back the bytes. -/
theorem encode_decode (bytes : List UInt8) : encode bytes.length (decode bytes) = bytes := by
  induction bytes using List.reverseRecOn with
  | nil => rfl
  | append_singleton bytes b ih =>
    have byte : b.toNat < 256 := b.toNat_lt
    have front : (256 * decode bytes + b.toNat) / 256 = decode bytes := by omega
    have last : UInt8.ofNat (256 * decode bytes + b.toNat) = b := by
      apply UInt8.toNat_inj.mp
      rw [UInt8.toNat_ofNat']
      omega
    rw [decode_append_byte, List.length_append, List.length_singleton, encode, front, last, ih]

/-- Only the part of a number that the width holds is written. -/
theorem encode_mod (width n : Nat) : encode width (n % 256 ^ width) = encode width n := by
  have h := encode_decode (encode width n)
  rwa [length_encode, decode_encode] at h

/-- A wide number is its high part followed by its low part. -/
theorem encode_add (high low n : Nat) :
    encode (high + low) n = encode high (n / 256 ^ low) ++ encode low n := by
  induction low generalizing n with
  | zero => simp [encode]
  | succ low ih =>
      rw [← Nat.add_assoc, encode, ih, encode, List.append_assoc, Nat.div_div_eq_div_mul,
        Nat.pow_succ']

/-- Bytes that suffice for a width start with the encoding of a number. -/
theorem exists_encode_append {width : Nat} {bytes : List UInt8} (h : width ≤ bytes.length) :
    ∃ n rest, n < 256 ^ width ∧ bytes = encode width n ++ rest := by
  have hlen : (bytes.take width).length = width := List.length_take_of_le h
  refine ⟨decode (bytes.take width), bytes.drop width, ?_, ?_⟩
  · have hlt := decode_lt (bytes.take width)
    rwa [hlen] at hlt
  · have henc := encode_decode (bytes.take width)
    rw [hlen] at henc
    rw [henc, List.take_append_drop]

end BigEndian

namespace Cursor

/-! ## 2. Reads that succeed -/

theorem take_append (position : Nat) (bytes rest : List UInt8) :
    (⟨position, bytes ++ rest⟩ : Cursor).take bytes.length
      = some (bytes, ⟨position + bytes.length, rest⟩) :=
  take_eq_some_iff.mpr ⟨rfl, rfl, rfl⟩

/-- A number that fits its width is read back. -/
theorem readNat_encode (position : Nat) {width n : Nat} (rest : List UInt8)
    (hn : n < 256 ^ width) :
    (⟨position, BigEndian.encode width n ++ rest⟩ : Cursor).readNat width
      = some (n, ⟨position + width, rest⟩) := by
  have h := take_append position (BigEndian.encode width n) rest
  rw [BigEndian.length_encode] at h
  rw [readNat, h]
  simp only [Option.map_some, BigEndian.decode_encode, Nat.mod_eq_of_lt hn]

theorem readByte_cons (position : Nat) (byte : UInt8) (rest : List UInt8) :
    (⟨position, byte :: rest⟩ : Cursor).readByte = some (byte, ⟨position + 1, rest⟩) := by
  have h := take_append position [byte] rest
  rw [List.singleton_append, List.length_singleton] at h
  rw [readByte, readNat, h]
  simp [BigEndian.decode]

theorem readIndex_encode (position : Nat) (index : UInt16) (rest : List UInt8) :
    (⟨position, BigEndian.encode 2 index.toNat ++ rest⟩ : Cursor).readIndex
      = some (index, ⟨position + 2, rest⟩) := by
  rw [readIndex, readNat_encode position rest index.toNat_lt]
  simp only [Option.map_some, UInt16.ofNat_toNat]

/-! ## 3. Reads that do not fit -/

/-- A number whose width exceeds what remains is not read. -/
theorem readNat_eq_none {c : Cursor} {width : Nat} (h : c.rest.length < width) :
    c.readNat width = none := by
  rw [readNat, take_eq_none_iff.mpr h, Option.map_none]

theorem readByte_nil (position : Nat) : (⟨position, []⟩ : Cursor).readByte = none := by
  rw [readByte, readNat_eq_none (by simp), Option.map_none]

theorem readIndex_eq_none {c : Cursor} (h : c.rest.length < 2) : c.readIndex = none := by
  rw [readIndex, readNat_eq_none h, Option.map_none]

end Cursor

end ClassPool
