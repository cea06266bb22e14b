/-
A major version as it is written on a command line: an optional sign and decimal digits.
The text is read as a signed number of 64 bits first, character by character, and only then
compared with the range of a major version, so a number can be refused for three different
reasons of size. Leading zeros and a plus sign are accepted.
-/
import ClassPool.Numeral

set_option autoImplicit false

namespace ClassPool.Dump

/-- Why a text is no major version. -/
inductive MajorFault where
  | empty
  | invalidDigit
  /-- Above every signed number of 64 bits. -/
  | tooLarge
  /-- Below every signed number of 64 bits. -/
  | tooSmall
  /-- A number, but not one of two unsigned bytes. -/
  | outOfRange (value : Int)
  deriving Repr, DecidableEq

def MajorFault.message : MajorFault → String
  | empty => "cannot parse integer from empty string"
  | invalidDigit => "invalid digit found in string"
  | tooLarge => "number too large to fit in target type"
  | tooSmall => "number too small to fit in target type"
  | outOfRange value => Numeral.signed value ++ " is not in 0..=65535"

namespace Major

/-- Reads digits behind a number that is already known. A character that is no digit is noticed
before the number becomes greater than the limit by it. -/
def digitsOnto (limit : Nat) (overflow : MajorFault) (known : Nat) :
    List Char → Except MajorFault Nat
  | [] => .ok known
  | c :: rest =>
    if c.isDigit then
      let next := 10 * known + (c.toNat - '0'.toNat)
      if next ≤ limit then digitsOnto limit overflow next rest else .error overflow
    else .error .invalidDigit

/-- The greatest signed number of 64 bits. -/
def greatest : Nat := 9223372036854775807

/-- A signed number of 64 bits. A sign needs a digit behind it. -/
def readSigned : List Char → Except MajorFault Int
  | [] => .error .empty
  | ['+'] | ['-'] => .error .invalidDigit
  | '+' :: digits => (digitsOnto greatest .tooLarge 0 digits).map fun n => (n : Int)
  | '-' :: digits => (digitsOnto (greatest + 1) .tooSmall 0 digits).map fun n => -(n : Int)
  | digits => (digitsOnto greatest .tooLarge 0 digits).map fun n => (n : Int)

/-- The major version that a text denotes. -/
def parse (text : String) : Except MajorFault UInt16 :=
  match readSigned text.toList with
  | .error fault => .error fault
  | .ok value =>
    if 0 ≤ value ∧ value ≤ 0xFFFF then .ok (UInt16.ofNat value.toNat)
    else .error (.outOfRange value)

end Major

end ClassPool.Dump
