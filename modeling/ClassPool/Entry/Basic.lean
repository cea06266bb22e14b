/-
The constants of a class file. An entry is a text, a number, or a reference that names
other entries of the pool by their indices; references are kept as they are read and are
not followed. Floats are kept as bits.

An entry takes one index slot of the pool, except that a long or a double takes two, of
which the second stays empty.

Shown as text, each kind has a word of its own; texts are quoted, numbers carry the suffix letter of
their kind, and references are indices behind a number sign. The text of an entry fills one line,
whatever the entry holds.
-/
import ClassPool.Decimal.Positional
import ClassPool.Ieee
import ClassPool.Text.Quoted

set_option autoImplicit false

namespace ClassPool

/-! ## 1. Kinds -/

/-- The kinds of entries that are recognised. -/
inductive Tag where
  | utf8
  | integer
  | float
  | long
  | double
  | classRef
  | stringRef
  | fieldRef
  | methodRef
  | nameAndType
  deriving Repr, DecidableEq

namespace Tag

/-- The byte that announces an entry of this kind. -/
def byte : Tag → UInt8
  | utf8 => 1
  | integer => 3
  | float => 4
  | long => 5
  | double => 6
  | classRef => 7
  | stringRef => 8
  | fieldRef => 9
  | methodRef => 10
  | nameAndType => 12

/-- The kind that a byte announces. Interface methods and the kinds of later formats have none. -/
def ofByte? (byte : UInt8) : Option Tag :=
  match byte.toNat with
  | 1 => some utf8
  | 3 => some integer
  | 4 => some float
  | 5 => some long
  | 6 => some double
  | 7 => some classRef
  | 8 => some stringRef
  | 9 => some fieldRef
  | 10 => some methodRef
  | 12 => some nameAndType
  | _ => none

@[simp] theorem ofByte?_byte (tag : Tag) : ofByte? tag.byte = some tag := by
  cases tag <;> rfl

/-- No byte announces a kind but that kind's own. -/
theorem byte_of_ofByte? {byte : UInt8} {tag : Tag} (h : ofByte? byte = some tag) :
    tag.byte = byte := by
  apply UInt8.toNat_inj.mp
  unfold ofByte? at h
  split at h <;> simp_all <;> subst h <;> rfl

end Tag

/-! ## 2. Entries -/

inductive Entry where
  | utf8 (text : String)
  | integer (value : Int32)
  /-- The bits of a single-precision float. -/
  | float (bits : UInt32)
  | long (value : Int64)
  /-- The bits of a double-precision float. -/
  | double (bits : UInt64)
  /-- A class or interface, by the index of its name. -/
  | classRef (name : UInt16)
  /-- A string, by the index of its text. -/
  | stringRef (text : UInt16)
  /-- A field, by the indices of its class and of its name and type. -/
  | fieldRef (owner member : UInt16)
  /-- A method of a class, by the indices of its class and of its name and type. -/
  | methodRef (owner member : UInt16)
  /-- A name and a type, by the indices of their texts. -/
  | nameAndType (name descriptor : UInt16)
  deriving DecidableEq

namespace Entry

def tag : Entry → Tag
  | utf8 _ => .utf8
  | integer _ => .integer
  | float _ => .float
  | long _ => .long
  | double _ => .double
  | classRef _ => .classRef
  | stringRef _ => .stringRef
  | fieldRef _ _ => .fieldRef
  | methodRef _ _ => .methodRef
  | nameAndType _ _ => .nameAndType

def takesTwoSlots : Entry → Bool
  | long _ => true
  | double _ => true
  | _ => false

theorem takesTwoSlots_iff {e : Entry} :
    e.takesTwoSlots = true ↔ (∃ value, e = long value) ∨ ∃ bits, e = double bits := by
  cases e with
  | long value => exact ⟨fun _ => .inl ⟨value, rfl⟩, fun _ => rfl⟩
  | double bits => exact ⟨fun _ => .inr ⟨bits, rfl⟩, fun _ => rfl⟩
  | _ => simp [takesTwoSlots]

def slots (e : Entry) : Nat :=
  if e.takesTwoSlots then 2 else 1

theorem slots_of_takesTwoSlots {e : Entry} (h : e.takesTwoSlots = true) : e.slots = 2 := by
  rw [slots, if_pos h]

theorem slots_of_not_takesTwoSlots {e : Entry} (h : ¬ e.takesTwoSlots = true) : e.slots = 1 := by
  rw [slots, if_neg h]

theorem slots_pos (e : Entry) : 0 < e.slots := by
  unfold slots
  split <;> omega

theorem slots_le (e : Entry) : e.slots ≤ 2 := by
  unfold slots
  split <;> omega

/-- The text of a text constant. -/
def text? : Entry → Option String
  | utf8 text => some text
  | _ => none

/-- Equality of entries where floats count as numbers: NaN differs from itself, and the two
zeros are equal. All else is compared exactly. -/
def agrees : Entry → Entry → Bool
  | float a, float b => Ieee.single.sameNumber a.toNat b.toNat
  | double a, double b => Ieee.double.sameNumber a.toNat b.toNat
  | a, b => a == b

/-! ## 3. Entries as text -/

/-- A reference to another entry. -/
def reference (index : UInt16) : String :=
  "#" ++ Numeral.decimal index.toNat

/-- The text of an entry, on one line. -/
def display : Entry → String
  | utf8 text => "Utf8 " ++ Text.Quoted.quote text
  | integer value => "Integer " ++ Numeral.signed value.toInt
  | float bits => "Float " ++ Ieee.single.text bits.toNat ++ "f"
  | long value => "Long " ++ Numeral.signed value.toInt ++ "l"
  | double bits => "Double " ++ Ieee.double.text bits.toNat ++ "d"
  | classRef name => "Class " ++ reference name
  | stringRef text => "String " ++ reference text
  | fieldRef owner member => "Fieldref " ++ reference owner ++ "." ++ reference member
  | methodRef owner member => "Methodref " ++ reference owner ++ "." ++ reference member
  | nameAndType name descriptor =>
    "NameAndType " ++ reference name ++ ":" ++ reference descriptor

end Entry

end ClassPool
