/-
The grammar of records. `Payload` says which bytes stand for the value of an entry, and a
record (`IsRecord`) is the tag byte of the entry in front of them. Only texts have more than
one record. `Unreadable` says of the bytes that start with no record what is wrong with them:
the first fault that one meets from the tag on.

Every byte string is of one of the two kinds (`record_or_unreadable`). `Entry.read` reads
what starts with a record (`read_record`) and reports the fault of what does not
(`read_unreadable`), so it is pinned down completely: its two exact conditions
`read_eq_ok_iff` and `read_eq_error_iff` follow from these three and need no second look at
how reading works.
-/
import ClassPool.Entry.Layout
import ClassPool.Proofs.Cursor
import ClassPool.Proofs.Text.Forms

set_option autoImplicit false

namespace ClassPool

namespace Entry

/-! ## 1. The grammar -/

/-- Eight bytes as two words, the high one first. -/
def words (bits : UInt64) : List UInt8 :=
  BigEndian.encode 4 (bits.toNat / 2 ^ 32) ++ BigEndian.encode 4 (bits.toNat % 2 ^ 32)

/-- The bytes that stand for the value of an entry. A text is the one value that is stored in
more than one way. -/
inductive Payload : Entry → List UInt8 → Prop where
  | utf8 {text : String} {bytes : List UInt8} (hlen : bytes.length ≤ 0xFFFF)
      (hbytes : Text.Stored text bytes) :
      Payload (.utf8 text) (BigEndian.encode 2 bytes.length ++ bytes)
  | integer (value : Int32) : Payload (.integer value) (BigEndian.encode 4 value.toUInt32.toNat)
  | float (bits : UInt32) : Payload (.float bits) (BigEndian.encode 4 bits.toNat)
  | long (value : Int64) : Payload (.long value) (words value.toUInt64)
  | double (bits : UInt64) : Payload (.double bits) (words bits)
  | classRef (name : UInt16) : Payload (.classRef name) (BigEndian.encode 2 name.toNat)
  | stringRef (text : UInt16) : Payload (.stringRef text) (BigEndian.encode 2 text.toNat)
  | fieldRef (owner member : UInt16) :
      Payload (.fieldRef owner member)
        (BigEndian.encode 2 owner.toNat ++ BigEndian.encode 2 member.toNat)
  | methodRef (owner member : UInt16) :
      Payload (.methodRef owner member)
        (BigEndian.encode 2 owner.toNat ++ BigEndian.encode 2 member.toNat)
  | nameAndType (name descriptor : UInt16) :
      Payload (.nameAndType name descriptor)
        (BigEndian.encode 2 name.toNat ++ BigEndian.encode 2 descriptor.toNat)

/-- The records of an entry: its tag byte and behind it a payload. -/
inductive IsRecord : Entry → List UInt8 → Prop where
  | mk {e : Entry} {payload : List UInt8} (h : Payload e payload) :
      IsRecord e (e.tag.byte :: payload)

end Entry

/-- How many bytes of payload follow a tag. A text announces its own length. -/
def Tag.payloadWidth? : Tag → Option Nat
  | utf8 => none
  | integer | float => some 4
  | long | double => some 8
  | classRef | stringRef => some 2
  | fieldRef | methodRef | nameAndType => some 4

namespace Entry

/-- What is wrong with bytes that start with no record. The tag is judged before the end of
the bytes, and the end before the text. -/
inductive Unreadable : List UInt8 → RecordFault → Prop where
  /-- There is not even a tag. -/
  | noTag : Unreadable [] .endOfInput
  /-- The first byte is the tag of no kind. -/
  | unknownTag {byte : UInt8} {rest : List UInt8} (hbyte : ∀ tag : Tag, tag.byte ≠ byte) :
      Unreadable (byte :: rest) (.unknownTag byte)
  /-- The payload of a kind of fixed width is cut short. -/
  | shortPayload {tag : Tag} {width : Nat} {rest : List UInt8}
      (hwidth : tag.payloadWidth? = some width) (hrest : rest.length < width) :
      Unreadable (tag.byte :: rest) .endOfInput
  /-- The length of a text is cut short. -/
  | shortLength {rest : List UInt8} (hrest : rest.length < 2) :
      Unreadable (Tag.utf8.byte :: rest) .endOfInput
  /-- A text is shorter than announced. -/
  | shortText {length : UInt16} {rest : List UInt8} (hrest : rest.length < length.toNat) :
      Unreadable (Tag.utf8.byte :: (BigEndian.encode 2 length.toNat ++ rest)) .endOfInput
  /-- A text is as long as announced, but it is no standard UTF-8, and no modified UTF-8 for
  the given cause. -/
  | malformedText {bytes rest : List UInt8} {cause : Text.Malformed}
      (hlen : bytes.length ≤ 0xFFFF) (hstandard : ∀ s, Text.standardForm s ≠ bytes)
      (hmodified : Text.Modified.decode bytes = .error cause) :
      Unreadable (Tag.utf8.byte :: (BigEndian.encode 2 bytes.length ++ (bytes ++ rest)))
        (.malformedText cause)

/-! ## 2. Records and faults are all there is -/

/-- Two words in a row are one number of eight bytes. -/
theorem words_eq (bits : UInt64) : words bits = BigEndian.encode 8 bits.toNat := by
  rw [words, BigEndian.encode_add 4 4]
  congr 1
  exact BigEndian.encode_mod 4 bits.toNat

/-- Two bytes are an index. -/
theorem exists_index_append {bytes : List UInt8} (h : 2 ≤ bytes.length) :
    ∃ (index : UInt16) (rest : List UInt8), bytes = BigEndian.encode 2 index.toNat ++ rest := by
  obtain ⟨n, rest, hn, rfl⟩ := BigEndian.exists_encode_append h
  refine ⟨UInt16.ofNat n, rest, ?_⟩
  rw [UInt16.toNat_ofNat_of_lt' hn]

theorem exists_indices_append {bytes : List UInt8} (h : 4 ≤ bytes.length) :
    ∃ (first second : UInt16) (rest : List UInt8),
      bytes = (BigEndian.encode 2 first.toNat ++ BigEndian.encode 2 second.toNat) ++ rest := by
  have hfirst : 2 ≤ bytes.length := by omega
  obtain ⟨first, behind, rfl⟩ := exists_index_append hfirst
  rw [List.length_append, BigEndian.length_encode] at h
  have hsecond : 2 ≤ behind.length := by omega
  obtain ⟨second, rest, rfl⟩ := exists_index_append hsecond
  exact ⟨first, second, rest, by rw [List.append_assoc]⟩

/-- Bytes that suffice for the payload of a kind start with one. -/
theorem exists_payload {tag : Tag} {width : Nat} (hwidth : tag.payloadWidth? = some width)
    {bytes : List UInt8} (h : width ≤ bytes.length) :
    ∃ e payload rest, e.tag = tag ∧ Payload e payload ∧ bytes = payload ++ rest := by
  cases tag <;> simp only [Tag.payloadWidth?, Option.some.injEq, reduceCtorEq] at hwidth <;>
    subst hwidth
  case integer =>
    obtain ⟨n, rest, hn, rfl⟩ := BigEndian.exists_encode_append h
    refine ⟨.integer (UInt32.ofNat n).toInt32, _, rest, rfl, .integer _, ?_⟩
    rw [UInt32.toUInt32_toInt32, UInt32.toNat_ofNat_of_lt' hn]
  case float =>
    obtain ⟨n, rest, hn, rfl⟩ := BigEndian.exists_encode_append h
    refine ⟨.float (UInt32.ofNat n), _, rest, rfl, .float _, ?_⟩
    rw [UInt32.toNat_ofNat_of_lt' hn]
  case long =>
    obtain ⟨n, rest, hn, rfl⟩ := BigEndian.exists_encode_append h
    refine ⟨.long (UInt64.ofNat n).toInt64, _, rest, rfl, .long _, ?_⟩
    rw [UInt64.toUInt64_toInt64, words_eq, UInt64.toNat_ofNat_of_lt' hn]
  case double =>
    obtain ⟨n, rest, hn, rfl⟩ := BigEndian.exists_encode_append h
    refine ⟨.double (UInt64.ofNat n), _, rest, rfl, .double _, ?_⟩
    rw [words_eq, UInt64.toNat_ofNat_of_lt' hn]
  case classRef =>
    obtain ⟨index, rest, rfl⟩ := exists_index_append h
    exact ⟨.classRef index, _, rest, rfl, .classRef index, rfl⟩
  case stringRef =>
    obtain ⟨index, rest, rfl⟩ := exists_index_append h
    exact ⟨.stringRef index, _, rest, rfl, .stringRef index, rfl⟩
  case fieldRef =>
    obtain ⟨first, second, rest, rfl⟩ := exists_indices_append h
    exact ⟨.fieldRef first second, _, rest, rfl, .fieldRef first second, rfl⟩
  case methodRef =>
    obtain ⟨first, second, rest, rfl⟩ := exists_indices_append h
    exact ⟨.methodRef first second, _, rest, rfl, .methodRef first second, rfl⟩
  case nameAndType =>
    obtain ⟨first, second, rest, rfl⟩ := exists_indices_append h
    exact ⟨.nameAndType first second, _, rest, rfl, .nameAndType first second, rfl⟩

/-- Bytes behind the tag of a text are the payload of one, or show why not. -/
theorem text_or_unreadable (bytes : List UInt8) :
    (∃ text payload rest, Payload (.utf8 text) payload ∧ bytes = payload ++ rest) ∨
      ∃ fault, Unreadable (Tag.utf8.byte :: bytes) fault := by
  rcases Nat.lt_or_ge bytes.length 2 with hshort | hlong
  · exact .inr ⟨_, .shortLength hshort⟩
  · obtain ⟨length, behind, rfl⟩ := exists_index_append hlong
    rcases Nat.lt_or_ge behind.length length.toNat with hcut | hfull
    · exact .inr ⟨_, .shortText hcut⟩
    · have hlen : (behind.take length.toNat).length = length.toNat := List.length_take_of_le hfull
      -- All announced bytes are there, so only the text in them can still be wrong.
      have hmax : (behind.take length.toNat).length ≤ 0xFFFF := by
        have hlt := length.toNat_lt
        omega
      have hsplit : BigEndian.encode 2 length.toNat ++ behind
          = BigEndian.encode 2 (behind.take length.toNat).length
            ++ (behind.take length.toNat ++ behind.drop length.toNat) := by
        rw [hlen, List.take_append_drop]
      cases hread : Text.read (behind.take length.toNat) with
      | ok text =>
          refine .inl ⟨text, _, behind.drop length.toNat,
            .utf8 hmax (Text.read_eq_ok_iff.mp hread), ?_⟩
          rw [hsplit, List.append_assoc]
      | error cause =>
          have hbad := Text.read_eq_error_iff.mp hread
          refine .inr ⟨.malformedText cause, ?_⟩
          rw [hsplit]
          exact .malformedText hmax hbad.1 hbad.2

/-- **Every byte string starts with a record or shows why not.** -/
theorem record_or_unreadable (bytes : List UInt8) :
    (∃ e record rest, IsRecord e record ∧ bytes = record ++ rest) ∨
      ∃ fault, Unreadable bytes fault := by
  cases bytes with
  | nil => exact .inr ⟨_, .noTag⟩
  | cons byte bytes =>
      by_cases hbyte : ∃ tag : Tag, tag.byte = byte
      · obtain ⟨tag, rfl⟩ := hbyte
        cases hwidth : tag.payloadWidth? with
        | some width =>
            rcases Nat.lt_or_ge bytes.length width with hcut | hfull
            · exact .inr ⟨_, .shortPayload hwidth hcut⟩
            · obtain ⟨e, payload, rest, rfl, hpayload, rfl⟩ := exists_payload hwidth hfull
              exact .inl ⟨e, _, rest, .mk hpayload, rfl⟩
        | none =>
            -- only a text announces its own length
            have htext : tag = .utf8 := by
              cases tag <;> simp [Tag.payloadWidth?] at hwidth ⊢
            subst htext
            rcases text_or_unreadable bytes with ⟨text, payload, rest, hpayload, rfl⟩ | hfault
            · exact .inl ⟨.utf8 text, _, rest, .mk hpayload, rfl⟩
            · exact .inr hfault
      · exact .inr ⟨_, .unknownTag fun tag htag => hbyte ⟨tag, htag⟩⟩

/-! ## 3. Reading payloads -/

theorem orEndOfInput_some_bind {α β : Type} (value : α) (next : α → Except RecordFault β) :
    (orEndOfInput (some value) >>= next) = next value := rfl

theorem orEndOfInput_none_bind {α β : Type} (next : α → Except RecordFault β) :
    (orEndOfInput none >>= next) = .error .endOfInput := rfl

theorem readBits_encode (position : Nat) {width n : Nat} (make : Nat → Entry) (rest : List UInt8)
    (hn : n < 256 ^ width) :
    readBits width make ⟨position, BigEndian.encode width n ++ rest⟩
      = .ok (make n, ⟨position + width, rest⟩) := by
  rw [readBits, Cursor.readNat_encode position rest hn, orEndOfInput_some_bind]
  rfl

theorem readReference_encode (position : Nat) (make : UInt16 → Entry) (index : UInt16)
    (rest : List UInt8) :
    readReference make ⟨position, BigEndian.encode 2 index.toNat ++ rest⟩
      = .ok (make index, ⟨position + 2, rest⟩) := by
  rw [readReference, Cursor.readIndex_encode, orEndOfInput_some_bind]
  rfl

theorem readReferences_encode (position : Nat) (make : UInt16 → UInt16 → Entry)
    (first second : UInt16) (rest : List UInt8) :
    readReferences make
        ⟨position, BigEndian.encode 2 first.toNat ++ BigEndian.encode 2 second.toNat ++ rest⟩
      = .ok (make first second, ⟨position + 4, rest⟩) := by
  rw [List.append_assoc, readReferences, Cursor.readIndex_encode, orEndOfInput_some_bind]
  simp only [Cursor.readIndex_encode, orEndOfInput_some_bind]
  rfl

/-- A text is looked at once all of its bytes are there. -/
theorem readText_encode (position : Nat) {bytes : List UInt8} (rest : List UInt8)
    (hlen : bytes.length ≤ 0xFFFF) :
    readText ⟨position, BigEndian.encode 2 bytes.length ++ (bytes ++ rest)⟩
      = ((Text.read bytes).mapError RecordFault.malformedText).map
          fun text => (utf8 text, ⟨position + 2 + bytes.length, rest⟩) := by
  have hnum : (UInt16.ofNat bytes.length).toNat = bytes.length :=
    UInt16.toNat_ofNat_of_lt' (show _ < 0x10000 by omega)
  have hlength := Cursor.readIndex_encode position (UInt16.ofNat bytes.length) (bytes ++ rest)
  rw [hnum] at hlength
  rw [readText, hlength, orEndOfInput_some_bind]
  simp only [hnum, Cursor.take_append, orEndOfInput_some_bind]
  cases Text.read bytes with
  | ok text => rfl
  | error cause => rfl

/-- **A payload is read as the value that it stands for**, whatever follows it. -/
theorem readPayload_payload {e : Entry} {payload : List UInt8} (h : Payload e payload)
    (position : Nat) (rest : List UInt8) :
    readPayload e.tag ⟨position, payload ++ rest⟩
      = .ok (e, ⟨position + payload.length, rest⟩) := by
  cases h with
  | @utf8 text bytes hlen hbytes =>
      simp only [tag, readPayload]
      rw [List.append_assoc, readText_encode position rest hlen, Text.read_eq_ok_iff.mpr hbytes,
        List.length_append, BigEndian.length_encode, ← Nat.add_assoc]
      rfl
  | integer value =>
      simp only [tag, readPayload]
      rw [readBits_encode position _ rest value.toUInt32.toNat_lt, UInt32.ofNat_toNat,
        Int32.toInt32_toUInt32, BigEndian.length_encode]
  | float bits =>
      simp only [tag, readPayload]
      rw [readBits_encode position _ rest bits.toNat_lt, UInt32.ofNat_toNat,
        BigEndian.length_encode]
  | long value =>
      simp only [tag, readPayload]
      rw [words_eq, readBits_encode position _ rest value.toUInt64.toNat_lt, UInt64.ofNat_toNat,
        Int64.toInt64_toUInt64, BigEndian.length_encode]
  | double bits =>
      simp only [tag, readPayload]
      rw [words_eq, readBits_encode position _ rest bits.toNat_lt, UInt64.ofNat_toNat,
        BigEndian.length_encode]
  | classRef index | stringRef index =>
      simp only [tag, readPayload]
      rw [readReference_encode, BigEndian.length_encode]
  | fieldRef first second | methodRef first second | nameAndType first second =>
      simp only [tag, readPayload]
      rw [readReferences_encode, List.length_append, BigEndian.length_encode,
        BigEndian.length_encode]

/-! ## 4. Payloads that are cut short -/

theorem readBits_short {c : Cursor} {width : Nat} (make : Nat → Entry)
    (h : c.rest.length < width) : readBits width make c = .error .endOfInput := by
  rw [readBits, Cursor.readNat_eq_none h, orEndOfInput_none_bind]

theorem readReference_short {c : Cursor} (make : UInt16 → Entry) (h : c.rest.length < 2) :
    readReference make c = .error .endOfInput := by
  rw [readReference, Cursor.readIndex_eq_none h, orEndOfInput_none_bind]

/-- Of two indices either the first or the second is cut short. -/
theorem readReferences_short {c : Cursor} (make : UInt16 → UInt16 → Entry)
    (h : c.rest.length < 4) : readReferences make c = .error .endOfInput := by
  obtain ⟨position, bytes⟩ := c
  rw [readReferences]
  rcases Nat.lt_or_ge bytes.length 2 with hshort | hlong
  · rw [Cursor.readIndex_eq_none hshort, orEndOfInput_none_bind]
  · obtain ⟨index, rest, rfl⟩ := exists_index_append hlong
    rw [List.length_append, BigEndian.length_encode] at h
    have hnone : (⟨position + 2, rest⟩ : Cursor).readIndex = none :=
      Cursor.readIndex_eq_none (show rest.length < 2 by omega)
    rw [Cursor.readIndex_encode, orEndOfInput_some_bind]
    simp only [hnone, orEndOfInput_none_bind]

theorem readPayload_short {tag : Tag} {width : Nat} (hwidth : tag.payloadWidth? = some width)
    {c : Cursor} (h : c.rest.length < width) : readPayload tag c = .error .endOfInput := by
  cases tag <;> simp only [Tag.payloadWidth?, Option.some.injEq, reduceCtorEq] at hwidth <;>
    subst hwidth
  case integer | float | long | double =>
    rw [readPayload]
    exact readBits_short _ h
  case classRef | stringRef =>
    rw [readPayload]
    exact readReference_short _ h
  case fieldRef | methodRef | nameAndType =>
    rw [readPayload]
    exact readReferences_short _ h

/-! ## 5. Reading records -/

/-- A tag decides how the rest is read. -/
theorem read_tag (position : Nat) (tag : Tag) (rest : List UInt8) :
    read ⟨position, tag.byte :: rest⟩ = readPayload tag ⟨position + 1, rest⟩ := by
  rw [read, Cursor.readByte_cons, orEndOfInput_some_bind]
  simp only [Tag.ofByte?_byte]

/-- A byte that is no tag is refused. -/
theorem read_noTag (position : Nat) {byte : UInt8} (rest : List UInt8)
    (hbyte : Tag.ofByte? byte = none) :
    read ⟨position, byte :: rest⟩ = .error (.unknownTag byte) := by
  rw [read, Cursor.readByte_cons, orEndOfInput_some_bind]
  simp only [hbyte]

/-- **A record is read as the entry that it stands for**, whatever follows it. -/
theorem read_record {e : Entry} {record : List UInt8} (h : IsRecord e record) (position : Nat)
    (rest : List UInt8) :
    read ⟨position, record ++ rest⟩ = .ok (e, ⟨position + record.length, rest⟩) := by
  obtain ⟨hpayload⟩ := h
  rw [List.cons_append, read_tag, readPayload_payload hpayload, List.length_cons, Nat.add_assoc,
    Nat.add_comm 1]

/-- **Bytes that start with no record are refused** for the first fault that they show. -/
theorem read_unreadable {c : Cursor} {fault : RecordFault} (h : Unreadable c.rest fault) :
    read c = .error fault := by
  obtain ⟨position, bytes⟩ := c
  change Unreadable bytes fault at h
  cases h with
  | noTag => rw [read, Cursor.readByte_nil, orEndOfInput_none_bind]
  | @unknownTag byte rest hbyte =>
      have hnone : Tag.ofByte? byte = none := by
        rw [Option.eq_none_iff_forall_ne_some]
        intro tag htag
        exact hbyte tag (Tag.byte_of_ofByte? htag)
      exact read_noTag position rest hnone
  | shortPayload hwidth hrest =>
      rw [read_tag]
      exact readPayload_short hwidth hrest
  | shortLength hrest =>
      rw [read_tag]
      change readText _ = _
      rw [readText, Cursor.readIndex_eq_none hrest, orEndOfInput_none_bind]
  -- The length can be read; it is the text that runs out.
  | @shortText length rest hrest =>
      have hnone : (⟨position + 1 + 2, rest⟩ : Cursor).take length.toNat = none :=
        Cursor.take_eq_none_iff.mpr hrest
      rw [read_tag]
      change readText _ = _
      rw [readText, Cursor.readIndex_encode, orEndOfInput_some_bind]
      simp only [hnone, orEndOfInput_none_bind]
  | malformedText hlen hstandard hmodified =>
      rw [read_tag]
      change readText _ = _
      rw [readText_encode (position + 1) _ hlen,
        Text.read_eq_error_iff.mpr ⟨hstandard, hmodified⟩]
      rfl

/-- An entry is read exactly where one of its records stands. -/
theorem read_eq_ok_iff {c after : Cursor} {e : Entry} :
    read c = .ok (e, after) ↔
      ∃ record, IsRecord e record ∧ c.rest = record ++ after.rest ∧
        after.position = c.position + record.length := by
  obtain ⟨position, bytes⟩ := c
  constructor
  · intro h
    -- What was read started with a record, for else it had been refused.
    rcases record_or_unreadable bytes with ⟨e', record, rest, hrecord, rfl⟩ | ⟨fault, hfault⟩
    · rw [read_record hrecord, Except.ok.injEq, Prod.mk.injEq] at h
      obtain ⟨rfl, rfl⟩ := h
      exact ⟨record, hrecord, rfl, rfl⟩
    · rw [read_unreadable hfault] at h
      cases h
  · rintro ⟨record, hrecord, hrest, hposition⟩
    obtain ⟨position', rest⟩ := after
    dsimp only at hrest hposition
    rw [hrest, hposition, read_record hrecord]

/-- A fault is reported exactly where the bytes show it. -/
theorem read_eq_error_iff {c : Cursor} {fault : RecordFault} :
    read c = .error fault ↔ Unreadable c.rest fault := by
  constructor
  · intro h
    rcases record_or_unreadable c.rest with ⟨e, record, rest, hrecord, hrest⟩ | ⟨fault', hfault⟩
    · have hread := read_record hrecord c.position rest
      rw [← hrest, h] at hread
      cases hread
    · rw [read_unreadable hfault] at h
      cases h
      exact hfault
  · exact read_unreadable

/-! ## 6. Records end where they say -/

/-- Of two records in front of the same bytes neither is shorter, and both are of one entry. -/
theorem IsRecord.unique {e e' : Entry} {record record' rest rest' : List UInt8}
    (h : IsRecord e record) (h' : IsRecord e' record')
    (heq : record ++ rest = record' ++ rest') : e = e' ∧ record = record' ∧ rest = rest' := by
  -- Reading is a function, and it reads either record in front of its own rest.
  have hread := read_record h 0 rest
  rw [heq, read_record h' 0 rest', Except.ok.injEq, Prod.mk.injEq, Cursor.mk.injEq] at hread
  obtain ⟨rfl, -, rfl⟩ := hread
  exact ⟨rfl, List.append_cancel_right heq, rfl⟩

/-- A record starts with the tag of its entry. -/
theorem IsRecord.head?_append {e : Entry} {record : List UInt8} (h : IsRecord e record)
    (rest : List UInt8) : (record ++ rest).head? = some e.tag.byte := by
  obtain ⟨-⟩ := h
  rfl

/-- Bytes that start with a record show no fault. -/
theorem IsRecord.not_unreadable {e : Entry} {record rest : List UInt8} (h : IsRecord e record)
    (fault : RecordFault) : ¬ Unreadable (record ++ rest) fault := by
  intro hfault
  have hread := read_record h 0 rest
  have hrefused := read_unreadable (c := ⟨0, record ++ rest⟩) hfault
  rw [hread] at hrefused
  cases hrefused

end Entry

end ClassPool
