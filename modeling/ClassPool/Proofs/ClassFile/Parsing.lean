/-
What parsing looks at in front of the pool. A header is its eight bytes and nothing else
(`Header.read?_eq_some_iff`), and it is missing exactly where fewer bytes are left
(`Header.read?_eq_none_iff`), so bytes that are cut behind their header keep it
(`Header.read?_take`).

Behind a header that is accepted the outcome of parsing is the outcome of decoding the pool
(`ClassFile.value_parse_of_accepted`), and a class file comes from nowhere else
(`ClassFile.value_parse_eq_ok_iff`).
-/
import ClassPool.ClassFile
import ClassPool.Proofs.Entry.Grammar

set_option autoImplicit false

namespace ClassPool

namespace Header

/-! ## 1. Headers as bytes -/

def bytes (header : Header) : List UInt8 :=
  BigEndian.encode 4 header.magic.toNat ++ BigEndian.encode 2 header.version.minor.toNat
    ++ BigEndian.encode 2 header.version.major.toNat

theorem length_bytes (header : Header) : header.bytes.length = length := by
  rw [bytes, List.length_append, List.length_append, BigEndian.length_encode,
    BigEndian.length_encode, BigEndian.length_encode, length]

/-- A header is read back from its bytes, whatever follows them. -/
theorem read?_bytes (header : Header) (rest : List UInt8) :
    read? (header.bytes ++ rest) = some header := by
  have hmagic := Cursor.readNat_encode 0
    (BigEndian.encode 2 header.version.minor.toNat
      ++ (BigEndian.encode 2 header.version.major.toNat ++ rest))
    (show header.magic.toNat < 256 ^ 4 from header.magic.toNat_lt)
  rw [bytes, List.append_assoc, List.append_assoc, read?, Cursor.into, List.drop_zero, hmagic]
  simp only [Option.bind_eq_bind, Option.bind_some, Cursor.readIndex_encode,
    UInt32.ofNat_toNat]
  rfl

theorem exists_bytes_append {bytes : List UInt8} (h : length ≤ bytes.length) :
    ∃ (header : Header) (rest : List UInt8), bytes = header.bytes ++ rest := by
  rw [length] at h
  obtain ⟨magic, behind, hmagic, rfl⟩ :=
    BigEndian.exists_encode_append (show 4 ≤ bytes.length by omega)
  rw [List.length_append, BigEndian.length_encode] at h
  obtain ⟨minor, major, rest, rfl⟩ :=
    Entry.exists_indices_append (show 4 ≤ behind.length by omega)
  refine ⟨⟨UInt32.ofNat magic, ⟨minor, major⟩⟩, rest, ?_⟩
  rw [Header.bytes, UInt32.toNat_ofNat_of_lt' hmagic, List.append_assoc, List.append_assoc,
    List.append_assoc]

/-- Bytes that do not suffice for a header have none. Whether they run out in the magic number
or in the version makes no difference. -/
theorem read?_short {bytes : List UInt8} (h : bytes.length < length) : read? bytes = none := by
  rw [length] at h
  rw [read?, Cursor.into, List.drop_zero]
  by_cases hmagic : bytes.length < 4
  · rw [Cursor.readNat_eq_none hmagic]
    rfl
  · obtain ⟨magic, behind, hbound, rfl⟩ :=
      BigEndian.exists_encode_append (show 4 ≤ bytes.length by omega)
    rw [List.length_append, BigEndian.length_encode] at h
    rw [Cursor.readNat_encode 0 behind hbound]
    simp only [Option.bind_eq_bind, Option.bind_some]
    by_cases hminor : behind.length < 2
    · rw [Cursor.readIndex_eq_none hminor, Option.bind_none]
    · obtain ⟨minor, rest, rfl⟩ :=
        Entry.exists_index_append (show 2 ≤ behind.length by omega)
      rw [List.length_append, BigEndian.length_encode] at h
      have hmajor : (⟨0 + 4 + 2, rest⟩ : Cursor).readIndex = none :=
        Cursor.readIndex_eq_none (show rest.length < 2 by omega)
      rw [Cursor.readIndex_encode]
      simp only [Option.bind_some, hmajor, Option.bind_none]

/-- **A header is read exactly where its bytes stand.** -/
theorem read?_eq_some_iff {bytes : List UInt8} {header : Header} :
    read? bytes = some header ↔ ∃ rest, bytes = header.bytes ++ rest := by
  constructor
  · intro h
    by_cases hlen : length ≤ bytes.length
    · obtain ⟨found, rest, rfl⟩ := exists_bytes_append hlen
      rw [read?_bytes, Option.some.injEq] at h
      exact ⟨rest, by rw [h]⟩
    · rw [read?_short (by omega)] at h
      cases h
  · rintro ⟨rest, rfl⟩
    exact read?_bytes header rest

theorem read?_eq_none_iff {bytes : List UInt8} : read? bytes = none ↔ bytes.length < length := by
  constructor
  · intro h
    by_contra hlen
    obtain ⟨header, rest, rfl⟩ := exists_bytes_append (Nat.le_of_not_lt hlen)
    rw [read?_bytes] at h
    cases h
  · exact read?_short

/-- What follows the header has no part in it. -/
theorem read?_take {bytes : List UInt8} {header : Header} {n : Nat}
    (h : read? bytes = some header) (hn : length ≤ n) : read? (bytes.take n) = some header := by
  obtain ⟨rest, rfl⟩ := read?_eq_some_iff.mp h
  rw [List.take_append, List.take_of_length_le (by rw [length_bytes]; exact hn)]
  exact read?_bytes header _

end Header

/-! ## 2. Parsing behind a header -/

namespace ClassFile

theorem value_parse_of_none {bytes : List UInt8} (options : Options)
    (h : bytes.length < Header.length) :
    (parse bytes options).value = .error (.malformed (.cutShort 0 bytes.length)) := by
  rw [parse, Header.read?_eq_none_iff.mpr h]

/-- Behind a header that is accepted the pool decides. -/
theorem value_parse_of_accepted {bytes : List UInt8} {options : Options} {header : Header}
    (hread : Header.read? bytes = some header) (hmagic : header.magic = magicNumber)
    (haccepts : options.accepts header.version.major = true) :
    (parse bytes options).value
      = match Pool.decode bytes Header.length with
        | .ok pool => .ok ⟨header.version, pool⟩
        | .error cause => .error (.malformed cause) := by
  rw [parse, hread]
  simp only [hmagic, ne_eq, not_true_eq_false, if_false, haccepts, if_true]
  rfl

/-- **A class file is parsed exactly where its header is accepted and its pool is decoded.** -/
theorem value_parse_eq_ok_iff {bytes : List UInt8} {options : Options} {c : ClassFile} :
    (parse bytes options).value = .ok c ↔
      ∃ header, Header.read? bytes = some header ∧ header.magic = magicNumber ∧
        options.accepts header.version.major = true ∧ c.version = header.version ∧
        Pool.decode bytes Header.length = .ok c.constantPool := by
  constructor
  · intro h
    cases hread : Header.read? bytes with
    | none =>
        rw [parse, hread] at h
        cases h
    | some header =>
        by_cases hmagic : header.magic = magicNumber
        · by_cases haccepts : options.accepts header.version.major = true
          · rw [value_parse_of_accepted hread hmagic haccepts] at h
            cases hdecode : Pool.decode bytes Header.length with
            | error cause =>
                rw [hdecode] at h
                cases h
            | ok pool =>
                rw [hdecode] at h
                cases h
                exact ⟨header, rfl, hmagic, haccepts, rfl, rfl⟩
          · rw [parse, hread] at h
            simp only [hmagic, ne_eq, not_true_eq_false, if_false, haccepts] at h
            cases h
        · rw [parse, hread] at h
          simp only [ne_eq, hmagic, not_false_eq_true, if_true] at h
          cases h
  · rintro ⟨header, hread, hmagic, haccepts, hversion, hdecode⟩
    rw [value_parse_of_accepted hread hmagic haccepts, hdecode, ← hversion]

end ClassFile

end ClassPool
