/-
Rows of numbers, written one behind the other and read from one cursor. A row is told by its
numbers alone: its bytes are those of the numbers, which are the big-endian two's complement of the
values in their widths (`decode_encode_eq_value_emod`), and how many they are is the sum of the
widths (`length_encodeAll`).

Reading follows the row. A number in front of a cursor is one step of a run (`read_cons_of_ok`), so
over a row a run meets each number and leaves the cursor behind it (`NumberRun.read_row`). Any bytes
start with the row of the longest leading part of the kinds that fits into them (`exists_row`);
therefore a run reads this part, and where a kind is left over it fails there because the input
ends.
-/
import ClassPool.Number
import ClassPool.Proofs.Cursor
import ClassPool.Proofs.Sink
import Mathlib.Algebra.Ring.Int.Defs

set_option autoImplicit false

namespace ClassPool

/-! ## 1. Widths and steps -/

namespace NumberType

/-- How many bytes numbers of these kinds take together. -/
def totalWidth (types : List NumberType) : Nat :=
  (types.map width).sum

@[simp] theorem totalWidth_nil : totalWidth [] = 0 := rfl

@[simp] theorem totalWidth_cons (type : NumberType) (types : List NumberType) :
    totalWidth (type :: types) = type.width + totalWidth types := by
  rw [totalWidth, List.map_cons, List.sum_cons, totalWidth]

@[simp] theorem totalWidth_append (front back : List NumberType) :
    totalWidth (front ++ back) = totalWidth front + totalWidth back := by
  rw [totalWidth, List.map_append, List.sum_append, totalWidth, totalWidth]

theorem totalWidth_le_of_prefix {front types : List NumberType} (h : front <+: types) :
    totalWidth front ≤ totalWidth types := by
  obtain ⟨back, rfl⟩ := h
  rw [totalWidth_append]
  omega

/-- Of the leading parts of some kinds those that fit are the leading parts of the longest that
fits, which is the one behind which there is no room for the next kind. -/
theorem totalWidth_le_iff_prefix {longest more front : List NumberType} {room : Nat}
    (hmore : ∀ type ∈ more.head?, room < type.width) (hfront : front <+: longest ++ more) :
    totalWidth front ≤ totalWidth longest + room ↔ front <+: longest := by
  constructor
  · intro hfits
    rcases List.prefix_or_prefix_of_prefix hfront (List.prefix_append longest more) with
      hwithin | ⟨beyond, rfl⟩
    · exact hwithin
    · have hbeyond : beyond <+: more := (List.prefix_append_right_inj longest).mp hfront
      cases beyond with
      | nil => simp
      | cons type beyond =>
          obtain ⟨back, rfl⟩ := hbeyond
          have hwide := hmore type rfl
          rw [totalWidth_append, totalWidth_cons] at hfits
          omega
  · intro hwithin
    have hle := totalWidth_le_of_prefix hwithin
    omega

end NumberType

namespace Cursor

/-- The cursor so many bytes further on. -/
def skip (c : Cursor) (n : Nat) : Cursor :=
  ⟨c.position + n, c.rest.drop n⟩

theorem skip_skip (c : Cursor) (n m : Nat) : (c.skip n).skip m = c.skip (n + m) := by
  rw [skip, skip, skip, List.drop_drop, Nat.add_assoc]

end Cursor

/-! ## 2. Single numbers -/

namespace Number

open NumberType

/-- The integer that a number stands for. A float stands for its bits. -/
def value : Number → Int
  | u1 value => value.toNat
  | u2 value => value.toNat
  | u4 value => value.toNat
  | int value => value.toInt
  | long value => value.toInt
  | float bits => bits.toNat

theorem bits_lt (number : Number) : number.bits < 256 ^ number.type.width := by
  cases number with
  | u1 value => exact value.toNat_lt
  | u2 value => exact value.toNat_lt
  | u4 value => exact value.toNat_lt
  | int value => exact value.toUInt32.toNat_lt
  | long value => exact value.toUInt64.toNat_lt
  | float bits => exact bits.toNat_lt

theorem bits_ofBits {type : NumberType} {bits : Nat} (h : bits < 256 ^ type.width) :
    (ofBits type bits).bits = bits := by
  cases type with
  | u1 => exact UInt8.toNat_ofNat_of_lt' h
  | u2 => exact UInt16.toNat_ofNat_of_lt' h
  | u4 => exact UInt32.toNat_ofNat_of_lt' h
  | int =>
      rw [ofBits, Number.bits, UInt32.toUInt32_toInt32]
      exact UInt32.toNat_ofNat_of_lt' h
  | long =>
      rw [ofBits, Number.bits, UInt64.toUInt64_toInt64]
      exact UInt64.toNat_ofNat_of_lt' h
  | float => exact UInt32.toNat_ofNat_of_lt' h

/-- The bits of a negative number are those of its two's complement. -/
theorem bits_eq_value_emod (number : Number) :
    (number.bits : Int) = number.value % 256 ^ number.type.width := by
  have hlt : (number.bits : Int) < 256 ^ number.type.width := by
    exact_mod_cast number.bits_lt
  have hself : (number.bits : Int) % 256 ^ number.type.width = number.bits :=
    Int.emod_eq_of_lt (Int.natCast_nonneg _) hlt
  cases number with
  | u1 value => exact hself.symm
  | u2 value => exact hself.symm
  | u4 value => exact hself.symm
  | int value =>
      -- A signed word is the balanced remainder of its bits.
      have hsigned : value.toInt = Int.bmod value.toUInt32.toNat (2 ^ 32) :=
        BitVec.toInt_eq_toNat_bmod _
      rw [Number.value, hsigned]
      exact (Int.bmod_emod.trans hself).symm
  | long value =>
      have hsigned : value.toInt = Int.bmod value.toUInt64.toNat (2 ^ 64) :=
        BitVec.toInt_eq_toNat_bmod _
      rw [Number.value, hsigned]
      exact (Int.bmod_emod.trans hself).symm
  | float bits => exact hself.symm

@[simp] theorem length_encode (number : Number) : number.encode.length = number.type.width :=
  BigEndian.length_encode _ _

/-- **The bytes of a number are its value in two's complement**, the most significant first. -/
theorem decode_encode_eq_value_emod (number : Number) :
    (BigEndian.decode number.encode : Int) = number.value % 256 ^ number.type.width := by
  rw [encode, BigEndian.decode_encode, Nat.mod_eq_of_lt number.bits_lt, bits_eq_value_emod]

theorem read_encode {number : Number} {c : Cursor} {rest : List UInt8}
    (h : c.rest = number.encode ++ rest) :
    read number.type c = .ok (number, c.skip number.type.width) := by
  obtain ⟨position, bytes⟩ := c
  obtain rfl : bytes = number.encode ++ rest := h
  have hrest : (number.encode ++ rest).drop number.type.width = rest :=
    List.drop_left' number.length_encode
  rw [read, encode, Cursor.readNat_encode position rest number.bits_lt]
  rw [encode] at hrest
  simp only [ofBits_bits, Cursor.skip, hrest]

theorem read_short {type : NumberType} {c : Cursor} (h : c.rest.length < type.width) :
    read type c = .error .endOfInput := by
  rw [read, Cursor.readNat_eq_none h]

/-- Bytes that suffice for a kind start with a number of it. -/
theorem exists_encode_append {type : NumberType} {bytes : List UInt8}
    (h : type.width ≤ bytes.length) :
    ∃ (number : Number) (rest : List UInt8),
      number.type = type ∧ bytes = number.encode ++ rest := by
  obtain ⟨n, rest, hn, hbytes⟩ := BigEndian.exists_encode_append h
  refine ⟨ofBits type n, rest, type_ofBits type n, ?_⟩
  rw [encode, type_ofBits, bits_ofBits hn]
  exact hbytes

/-! ## 3. Rows of numbers -/

/-- The bytes of numbers, one behind the other. -/
def encodeAll (numbers : List Number) : List UInt8 :=
  numbers.flatMap encode

@[simp] theorem encodeAll_nil : encodeAll [] = [] := rfl

@[simp] theorem encodeAll_cons (number : Number) (numbers : List Number) :
    encodeAll (number :: numbers) = number.encode ++ encodeAll numbers := by
  rw [encodeAll, List.flatMap_cons, encodeAll]

theorem length_encodeAll (numbers : List Number) :
    (encodeAll numbers).length = totalWidth (numbers.map type) := by
  induction numbers with
  | nil => rfl
  | cons number numbers ih =>
      rw [encodeAll_cons, List.length_append, length_encode, ih, List.map_cons, totalWidth_cons]

theorem delivers_writeAll (numbers : List Number) :
    Writing.Delivers (writeAll numbers) (encodeAll numbers) (.ok ()) := by
  induction numbers with
  | nil => exact Writing.delivers_pure
  | cons number rest ih =>
      rw [encodeAll_cons, writeAll]
      exact (Writing.delivers_put number.encode).bind ih

/-- Numbers that stand one behind the other from a cursor on, each with the cursor behind it. -/
def along (c : Cursor) (numbers : List Number) : List (Number × Cursor) :=
  numbers.mapIdx fun place number =>
    (number, c.skip (totalWidth ((numbers.take (place + 1)).map type)))

@[simp] theorem along_nil (c : Cursor) : along c [] = [] := rfl

theorem along_cons (c : Cursor) (number : Number) (numbers : List Number) :
    along c (number :: numbers)
      = (number, c.skip number.type.width) :: along (c.skip number.type.width) numbers := by
  rw [along, List.mapIdx_cons, along]
  simp [Cursor.skip_skip]

theorem map_fst_along (c : Cursor) (numbers : List Number) :
    (along c numbers).map Prod.fst = numbers := by
  induction numbers generalizing c with
  | nil => rfl
  | cons number numbers ih => rw [along_cons, List.map_cons, ih]

/-- Bytes start with a row of numbers of the given kinds, up to a kind that takes more bytes than
are left. -/
theorem exists_row (types : List NumberType) (bytes : List UInt8) :
    ∃ numbers more rest, types = numbers.map type ++ more ∧ bytes = encodeAll numbers ++ rest ∧
      ∀ type ∈ more.head?, rest.length < type.width := by
  -- The induction is on the kinds; the first that does not fit ends the row.
  induction types generalizing bytes with
  | nil => exact ⟨[], [], bytes, rfl, rfl, by simp⟩
  | cons type types ih =>
      by_cases hfits : type.width ≤ bytes.length
      · obtain ⟨number, behind, rfl, rfl⟩ := exists_encode_append hfits
        obtain ⟨numbers, more, rest, rfl, rfl, hmore⟩ := ih behind
        refine ⟨number :: numbers, more, rest, rfl, ?_, hmore⟩
        rw [encodeAll_cons, List.append_assoc]
      · exact ⟨[], type :: types, bytes, rfl, rfl, by simpa using hfits⟩

end Number

/-! ## 4. Runs of reads -/

namespace NumberRun

open Number NumberType

/-- The numbers of a run without their cursors. -/
def values (run : NumberRun) : List Number :=
  run.numbers.map Prod.fst

/-- The kinds of the numbers of a run. -/
def types (run : NumberRun) : List NumberType :=
  run.values.map Number.type

/-- What was read before stands in front of what a run reads. -/
theorem continueFrom_eq (c : Cursor) (done : List (Number × Cursor)) (types : List NumberType) :
    continueFrom c done types = ⟨done.reverse ++ (read types c).numbers, (read types c).outcome⟩ := by
  induction types generalizing c done with
  | nil => simp [continueFrom, read]
  | cons type types ih =>
      rw [continueFrom, read, continueFrom]
      cases Number.read type c with
      | error cause => simp
      | ok found =>
          obtain ⟨number, after⟩ := found
          simp only [ih after ((number, after) :: done), ih after [(number, after)]]
          simp

@[simp] theorem read_nil (c : Cursor) : read [] c = ⟨[], .ok ()⟩ := rfl

theorem read_cons_of_ok {type : NumberType} {types : List NumberType} {c after : Cursor}
    {number : Number} (h : Number.read type c = .ok (number, after)) :
    read (type :: types) c
      = ⟨(number, after) :: (read types after).numbers, (read types after).outcome⟩ := by
  rw [read, continueFrom, h]
  exact continueFrom_eq after [(number, after)] types

theorem read_cons_of_error {type : NumberType} {types : List NumberType} {c : Cursor}
    {cause : ReadError} (h : Number.read type c = .error cause) :
    read (type :: types) c = ⟨[], .error cause⟩ := by
  rw [read, continueFrom, h]
  rfl

theorem rest_skip_row {numbers : List Number} {c : Cursor} {rest : List UInt8}
    (h : c.rest = encodeAll numbers ++ rest) :
    (c.skip (totalWidth (numbers.map type))).rest = rest := by
  rw [Cursor.skip, h]
  exact List.drop_left' (length_encodeAll numbers)

/-- **A run over a row of numbers** meets each of them and goes on behind the last. -/
theorem read_row {numbers : List Number} {c : Cursor} {rest : List UInt8}
    (h : c.rest = encodeAll numbers ++ rest) (more : List NumberType) :
    read (numbers.map type ++ more) c
      = ⟨along c numbers ++ (read more (c.skip (totalWidth (numbers.map type)))).numbers,
        (read more (c.skip (totalWidth (numbers.map type)))).outcome⟩ := by
  induction numbers generalizing c with
  | nil => rfl
  | cons number numbers ih =>
      rw [encodeAll_cons, List.append_assoc] at h
      have hrest : (c.skip number.type.width).rest = encodeAll numbers ++ rest := by
        rw [Cursor.skip, h]
        exact List.drop_left' number.length_encode
      rw [List.map_cons, List.cons_append, read_cons_of_ok (read_encode h), ih hrest, along_cons,
        Cursor.skip_skip, totalWidth_cons]
      rfl

/-- Over the longest row that fits a run reads its numbers, and if a kind is left over the run ends
because the input does. -/
theorem read_of_longest {numbers : List Number} {more : List NumberType} {c : Cursor}
    {rest : List UInt8} (h : c.rest = encodeAll numbers ++ rest)
    (hmore : ∀ type ∈ more.head?, rest.length < type.width) :
    read (numbers.map type ++ more) c
      = ⟨along c numbers, if more = [] then .ok () else .error .endOfInput⟩ := by
  rw [read_row h more]
  cases more with
  | nil => simp
  | cons type more =>
      have hshort : (c.skip (totalWidth (numbers.map Number.type))).rest.length < type.width := by
        rw [rest_skip_row h]
        exact hmore type rfl
      rw [read_cons_of_error (read_short hshort)]
      simp

/-- What a run of reads makes of the bytes behind a cursor. -/
structure ReadsLongest (types : List NumberType) (c : Cursor) (run : NumberRun) : Prop where
  /-- What was read is a leading part of what was asked for, and the longest that fits. -/
  types_prefix : run.types <+: types
  fits_iff : ∀ front, front <+: types → (totalWidth front ≤ c.rest.length ↔ front <+: run.types)
  complete_iff : run.complete = true ↔ totalWidth types ≤ c.rest.length
  /-- The next kind, if there is one, cannot be read, and this is how the run ends. -/
  endOfInput : ∀ type, run.types ++ [type] <+: types →
    Number.read type (c.skip (totalWidth run.types)) = .error .endOfInput ∧
      run.outcome = .error .endOfInput
  /-- Behind each number the cursor has moved by the widths up to there. -/
  cursors : run.numbers = along c run.values
  /-- The numbers that were read are written as the bytes that they were read from. -/
  rewritten : (writeAll run.values).run none = ⟨c.rest.take (totalWidth run.types), .ok ()⟩

/-- Of the leading parts of what is asked for those fit that the longest row reaches. -/
theorem fits_iff_of_longest {numbers : List Number} {more front : List NumberType} {c : Cursor}
    {rest : List UInt8} (h : c.rest = encodeAll numbers ++ rest)
    (hmore : ∀ type ∈ more.head?, rest.length < type.width)
    (hfront : front <+: numbers.map type ++ more) :
    totalWidth front ≤ c.rest.length ↔ front <+: numbers.map type := by
  rw [h, List.length_append, length_encodeAll]
  exact totalWidth_le_iff_prefix hmore hfront

theorem readsLongest_read (types : List NumberType) (c : Cursor) :
    ReadsLongest types c (read types c) := by
  obtain ⟨numbers, more, rest, rfl, hrest, hmore⟩ := exists_row types c.rest
  have hread := read_of_longest hrest hmore
  have hvalues : (read (numbers.map type ++ more) c).values = numbers := by
    rw [values, hread, map_fst_along]
  have htypes : (read (numbers.map type ++ more) c).types = numbers.map type := by
    rw [NumberRun.types, hvalues]
  -- Everything is read off this row: the run gives its numbers, and their bytes are its bytes.
  refine ⟨?_, ?_, ?_, ?_, ?_, ?_⟩
  · rw [htypes]
    exact List.prefix_append _ more
  · intro front hfront
    rw [htypes]
    exact fits_iff_of_longest hrest hmore hfront
  · have hall : numbers.map type ++ more <+: numbers.map type ++ [] ↔ more <+: [] :=
      List.prefix_append_right_inj _
    rw [List.append_nil, List.prefix_nil] at hall
    rw [fits_iff_of_longest hrest hmore List.prefix_rfl, hall, complete, hread]
    by_cases hleft : more = []
    · simp [hleft, Except.isOk, Except.toBool]
    · simp [hleft, Except.isOk, Except.toBool]
  · intro type htype
    rw [htypes, List.prefix_append_right_inj] at htype
    obtain ⟨back, rfl⟩ := htype
    constructor
    · apply read_short
      rw [htypes, rest_skip_row hrest]
      exact hmore type rfl
    · have hleft : [type] ++ back ≠ [] := List.cons_ne_nil type back
      rw [hread, if_neg hleft]
  · rw [hvalues, hread]
  · rw [hvalues, htypes, (delivers_writeAll numbers).run_none, hrest,
      List.take_left' (length_encodeAll numbers)]

end NumberRun

/-! ## 5. Both ways -/

namespace Number

open NumberType

/-- What writing a row of numbers and reading it back amounts to. -/
structure ReadsBack (numbers : List Number) : Prop where
  written : (writeAll numbers).run none = ⟨encodeAll numbers, .ok ()⟩
  length : (encodeAll numbers).length = totalWidth (numbers.map type)
  /-- Each number takes its width and is stored in two's complement, the most significant byte
  first. -/
  stored : ∀ number ∈ numbers, number.encode.length = number.type.width ∧
    (BigEndian.decode number.encode : Int) = number.value % 256 ^ number.type.width
  /-- Whatever follows the row, its numbers are read back from it, and behind each of them the
  cursor has moved by the widths up to there. -/
  read : ∀ position rest,
    NumberRun.read (numbers.map type) ⟨position, encodeAll numbers ++ rest⟩
      = ⟨along ⟨position, encodeAll numbers ++ rest⟩ numbers, .ok ()⟩

/-- **Numbers are written and read without loss.** A row of numbers is read back as it was written,
and what can be read of any bytes, which is the longest leading part of the kinds that fits into
them, is written as the bytes it was read from. -/
theorem readsBack_and_readsLongest :
    (∀ numbers, ReadsBack numbers) ∧
      ∀ types c, NumberRun.ReadsLongest types c (NumberRun.read types c) := by
  refine ⟨fun numbers => ?_, NumberRun.readsLongest_read⟩
  refine ⟨(delivers_writeAll numbers).run_none, length_encodeAll numbers, ?_, ?_⟩
  · intro number _
    exact ⟨number.length_encode, number.decode_encode_eq_value_emod⟩
  · intro position rest
    have hread : NumberRun.read (numbers.map type ++ []) ⟨position, encodeAll numbers ++ rest⟩ = _ :=
      NumberRun.read_of_longest rfl (by simp)
    rwa [List.append_nil, if_pos rfl] at hread

/-- A negative integer, a not-a-number with a payload and a negative zero are read back in front of
a further byte. Of three bytes an index is read, and a long behind it is not. -/
theorem readsBack_and_readsLongest_negative_nan_and_short :
    (writeAll [.int (-2), .float 0xFFC00001, .float 0x80000000]).run none
        = ⟨[0xFF, 0xFF, 0xFF, 0xFE, 0xFF, 0xC0, 0, 1, 0x80, 0, 0, 0], .ok ()⟩ ∧
      NumberRun.read [.int, .float, .float]
          ⟨0, [0xFF, 0xFF, 0xFF, 0xFE, 0xFF, 0xC0, 0, 1, 0x80, 0, 0, 0, 9]⟩
        = ⟨[(.int (-2), ⟨4, [0xFF, 0xC0, 0, 1, 0x80, 0, 0, 0, 9]⟩),
            (.float 0xFFC00001, ⟨8, [0x80, 0, 0, 0, 9]⟩),
            (.float 0x80000000, ⟨12, [9]⟩)], .ok ()⟩ ∧
      (NumberRun.read [.u2, .long, .u1] ⟨0, [1, 2, 3]⟩).values = [.u2 0x0102] ∧
      (NumberRun.read [.u2, .long, .u1] ⟨0, [1, 2, 3]⟩).outcome = .error .endOfInput ∧
      (writeAll [.u2 0x0102]).run none = ⟨[1, 2], .ok ()⟩ := by
  obtain ⟨hback, hlongest⟩ := readsBack_and_readsLongest
  have hrow := hback [.int (-2), .float 0xFFC00001, .float 0x80000000]
  have hbytes : encodeAll [.int (-2), .float 0xFFC00001, .float 0x80000000]
      = [0xFF, 0xFF, 0xFF, 0xFE, 0xFF, 0xC0, 0, 1, 0x80, 0, 0, 0] := by
    decide +kernel
  have hwritten := hrow.written
  have hread := hrow.read 0 [9]
  rw [hbytes] at hwritten hread
  have hshort := hlongest [.u2, .long, .u1] ⟨0, [1, 2, 3]⟩
  have hvalues : (NumberRun.read [.u2, .long, .u1] ⟨0, [1, 2, 3]⟩).values = [.u2 0x0102] := by
    decide +kernel
  have hrewritten := hshort.rewritten
  rw [NumberRun.types, hvalues] at hrewritten
  have hends := hshort.endOfInput .long (by decide +kernel)
  exact ⟨hwritten, hread, hvalues, hends.2, hrewritten⟩

end Number

end ClassPool
