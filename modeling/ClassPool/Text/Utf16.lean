/-
UTF-16. A text is a sequence of characters; its 16-bit units are the characters below
U+10000 as they are and two surrogates, a high and a low one, for every other character.
`units` takes a text apart and `join` puts units together, from left to right: a high
surrogate with a low one right behind it is a pair, and the first surrogate that has no
partner is what `join` reports.
-/

set_option autoImplicit false

namespace ClassPool.Text.Utf16

/-- Whether a unit is the first half of a pair. -/
def isHigh (unit : UInt16) : Bool :=
  0xD800 ≤ unit.toNat && unit.toNat < 0xDC00

/-- Whether a unit is the second half of a pair. -/
def isLow (unit : UInt16) : Bool :=
  0xDC00 ≤ unit.toNat && unit.toNat < 0xE000

/-- The units of a character. -/
def ofChar (c : Char) : List UInt16 :=
  if c.toNat < 0x10000 then
    [UInt16.ofNat c.toNat]
  else
    [UInt16.ofNat (0xD800 + (c.toNat - 0x10000) / 0x400),
     UInt16.ofNat (0xDC00 + (c.toNat - 0x10000) % 0x400)]

/-- The units of a text, in order. -/
def units (s : String) : List UInt16 :=
  s.toList.flatMap ofChar

/-- The character that a high and a low surrogate stand for. -/
def pair (high low : UInt16) : Char :=
  Char.ofNat (0x10000 + (high.toNat - 0xD800) * 0x400 + (low.toNat - 0xDC00))

/-- Joins units behind characters that are already known, the latest first. -/
def joinOnto (done : List Char) : List UInt16 → Except UInt16 (List Char)
  | [] => .ok done.reverse
  | [unit] =>
    if isHigh unit || isLow unit then .error unit
    else .ok (Char.ofNat unit.toNat :: done).reverse
  | unit :: next :: rest =>
    if isHigh unit then
      if isLow next then joinOnto (pair unit next :: done) rest else .error unit
    else if isLow unit then .error unit
    else joinOnto (Char.ofNat unit.toNat :: done) (next :: rest)

/-- The characters that units stand for, or the first surrogate without a partner. -/
def join (units : List UInt16) : Except UInt16 (List Char) :=
  joinOnto [] units

end ClassPool.Text.Utf16
