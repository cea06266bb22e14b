/-
Numbers as text. Counts, indices and signed values are written in decimal, offsets in
upper-case hexadecimal behind `0x`, code units and digests in lower-case hexadecimal.
Every text that the library prints takes its numbers from here, so that one spelling
of a number holds everywhere.
-/

set_option autoImplicit false

namespace ClassPool.Numeral

/-- The decimal digits of a natural number, without leading zeros; `0` for zero. -/
def decimal (n : Nat) : String :=
  String.ofList (Nat.toDigits 10 n)

/-- A signed decimal: the minus sign stands only before negative numbers. -/
def signed (i : Int) : String :=
  if i < 0 then "-" ++ decimal i.natAbs else decimal i.natAbs

/-- Lower-case hexadecimal digits without leading zeros. -/
def hex (n : Nat) : String :=
  String.ofList (Nat.toDigits 16 n)

/-- Upper-case hexadecimal digits without leading zeros. -/
def upperHex (n : Nat) : String :=
  String.ofList ((Nat.toDigits 16 n).map Char.toUpper)

/-- An offset into a buffer: `0x` and upper-case digits, unpadded. -/
def offset (n : Nat) : String :=
  "0x" ++ upperHex n

/-- A text filled up on the left with a character to a least width. A longer text stays whole. -/
def padLeft (width : Nat) (fill : Char) (s : String) : String :=
  String.ofList (s.toList.leftpad width fill)

/-- Two lower-case hexadecimal digits for every byte. -/
def hexBytes (bytes : List UInt8) : String :=
  String.ofList (bytes.flatMap fun b => [Nat.digitChar (b.toNat / 16), Nat.digitChar (b.toNat % 16)])

end ClassPool.Numeral
