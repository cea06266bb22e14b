/-
Writing and decoding undo each other. The records that are written for entries are records of
these entries (`exists_written`), so a pool stands wherever its bytes stand, and decoding
finds it there (`decode_bytes`). All that this needs is that the texts fit and that the
entries fill the count. The entries of a built pool fill it because their slots end exactly
below it; those of a decoded pool fill it because they were decoded, also where the last of
them reaches past the count and where there is none.

The other way round the bytes may change. A decoded pool was read from records, and what is
written instead is the written record of each (`IsRecord.eq_record_iff`). As a record tells
where it ends, two rows of records of the same entries are equal only if they are record by
record (`bytesOf_eq_recordsOf_iff`), which leaves the texts as the only difference.
-/
import Mathlib.Data.List.Basic
import ClassPool.Pool.Build
import ClassPool.Proofs.Pool.Decoding
import ClassPool.Proofs.Pool.Written

set_option autoImplicit false

namespace ClassPool

/-! ## 1. Written records among records -/

namespace StoredEntry

open Entry

/-- The bytes of the text in the record of a text: all behind the tag and the length. -/
def textBytes (r : StoredEntry) : List UInt8 :=
  r.bytes.drop 3

/-- A stored entry is stored by what is written for it unless it is a text in another form. -/
theorem bytes_eq_record_iff (r : StoredEntry) :
    r.bytes = r.entry.record ↔
      ∀ text, r.entry = utf8 text → r.textBytes = Text.Modified.encode text :=
  r.isRecord.eq_record_iff

theorem bytesOf_eq_recordsOf {records : List StoredEntry}
    (h : ∀ r ∈ records, r.bytes = r.entry.record) :
    bytesOf records = recordsOf (entriesOf records) := by
  rw [bytesOf, recordsOf, entriesOf, List.flatMap_map]
  exact List.flatMap_congr h

/-- Entries that fit are stored by what is written for them. -/
theorem exists_written {entries : List Entry} (h : AllFit entries) :
    ∃ records, entriesOf records = entries ∧ ∀ r ∈ records, r.bytes = r.entry.record := by
  induction entries with
  | nil => exact ⟨[], rfl, by simp⟩
  | cons e rest ih =>
      obtain ⟨hfirst, hrest⟩ := allFit_cons_iff.mp h
      obtain ⟨records, rfl, hrecords⟩ := ih hrest
      refine ⟨⟨e, e.record, isRecord_record hfirst⟩ :: records, rfl, ?_⟩
      rw [List.forall_mem_cons]
      exact ⟨rfl, hrecords⟩

/-- Records take the bytes that are written only if each of them is the written one. -/
theorem bytesOf_eq_recordsOf_iff {records : List StoredEntry}
    (hfits : AllFit (entriesOf records)) :
    bytesOf records = recordsOf (entriesOf records) ↔
      ∀ r ∈ records, ∀ text, r.entry = utf8 text → r.textBytes = Text.Modified.encode text := by
  simp only [← bytes_eq_record_iff]
  refine ⟨fun hbytes => ?_, bytesOf_eq_recordsOf⟩
  -- What is written is a row of records too, of the same entries and with the same bytes.
  obtain ⟨written, hentries, hwritten⟩ := exists_written hfits
  have hsame : bytesOf written ++ [] = bytesOf records ++ [] := by
    rw [hbytes, ← hentries, bytesOf_eq_recordsOf hwritten]
  rwa [← eq_of_append_eq hentries hsame]

end StoredEntry

namespace Pool

open Entry StoredEntry

/-! ## 2. Pools where their bytes stand -/

/-- The entries of a built pool fill its count. -/
theorem fills_of_build {entries : List Entry} {p : Pool} (h : build entries = .ok p) :
    Fills p.count.toNat p.entries := by
  obtain ⟨hcount, rfl, -⟩ := build_eq_ok_iff.mp h
  exact ⟨startBelow_of_le (Nat.le_of_eq hcount.symm), Nat.le_of_eq hcount⟩

/-- **A pool is found where its bytes stand**, whatever stands in front and behind. -/
theorem decode_bytes {p : Pool} (hfills : Fills p.count.toNat p.entries)
    (hfits : AllFit p.entries) (front back : List UInt8) :
    decode (front ++ p.bytes ++ back) front.length
      = .ok ⟨p.count, p.entries, front.length + p.bytes.length⟩ := by
  obtain ⟨records, hentries, hwritten⟩ := exists_written hfits
  have hbytes : p.bytes = BigEndian.encode 2 p.count.toNat ++ bytesOf records := by
    rw [bytes, bytesOf_eq_recordsOf hwritten, hentries]
  rw [← hentries] at hfills
  refine decode_eq_ok_iff.mpr ⟨records, back, ⟨front, rfl, ?_⟩, hfills, hentries.symm, ?_⟩
  · show front ++ p.bytes ++ back
      = front ++ BigEndian.encode 2 p.count.toNat ++ bytesOf records ++ back
    rw [hbytes, List.append_assoc front (BigEndian.encode 2 p.count.toNat)]
  · rw [hbytes, List.length_append, BigEndian.length_encode, offsetBehind, Nat.add_assoc]

/-! ## 3. Writing first -/

/-- **Decoding undoes writing.** A built pool whose texts all fit is written whole, in as many
bytes as it announces, and decoding finds it again wherever these bytes stand. -/
theorem decode_write_of_build {entries : List Entry} {p : Pool} (hbuild : build entries = .ok p)
    (hfits : AllFit entries) :
    ∃ bytes, p.write.run none = ⟨bytes, .ok ()⟩ ∧ bytes.length = p.stop ∧
      p.stop = 2 + (entries.map Entry.encodedLength).sum ∧
      ∀ front back, ∃ q, decode (front ++ bytes ++ back) front.length = .ok q ∧
        q.count = p.count ∧ q.table = p.table ∧ q.stop = front.length + bytes.length := by
  have hfills := fills_of_build hbuild
  obtain ⟨-, rfl, hstop⟩ := build_eq_ok_iff.mp hbuild
  refine ⟨p.bytes, (delivers_write hfits).run_none, ?_, ?_, fun front back => ?_⟩
  · rw [length_bytes, hstop]
  · rw [hstop, encodedLength_eq_sum]
  · exact ⟨_, decode_bytes hfills hfits front back, rfl, rfl, rfl⟩

/-- A text with a zero and a surrogate pair, a NaN with a payload and a negative zero come back
in place. -/
theorem decode_write_of_build_text_and_floats :
    ∃ p, build [utf8 "A\x00é𝄞", double 0x7FF8000000000001, float 0x80000000, long (-1)]
        = .ok p ∧
      ∃ bytes, p.write.run none = ⟨bytes, .ok ()⟩ ∧ bytes.length = 39 ∧
        ∀ front back, ∃ q, decode (front ++ bytes ++ back) front.length = .ok q ∧
          q.table = [(1, utf8 "A\x00é𝄞"), (2, double 0x7FF8000000000001),
            (4, float 0x80000000), (5, long (-1))] := by
  have hfits : AllFit [utf8 "A\x00é𝄞", double 0x7FF8000000000001, float 0x80000000,
      long (-1)] := by
    intro text hmem
    simp only [List.mem_cons, utf8.injEq, reduceCtorEq, List.not_mem_nil, or_false] at hmem
    subst hmem
    decide
  obtain ⟨bytes, hrun, hlength, -, hdecode⟩ := decode_write_of_build rfl hfits
  refine ⟨_, rfl, bytes, hrun, hlength, fun front back => ?_⟩
  obtain ⟨q, hq, -, htable, -⟩ := hdecode front back
  exact ⟨q, hq, htable⟩

/-! ## 4. Decoding first -/

/-- The bytes that a decoding consumed which started at an offset and gave this pool. -/
def consumed (p : Pool) (buffer : List UInt8) (start : Nat) : List UInt8 :=
  (buffer.drop start).take (p.stop - start)

/-- The consumed bytes are the count and these records. -/
structure ReadFrom (p : Pool) (buffer : List UInt8) (start : Nat) (records : List StoredEntry) :
    Prop where
  entries_eq : entriesOf records = p.entries
  consumed_eq : p.consumed buffer start = BigEndian.encode 2 p.count.toNat ++ bytesOf records

theorem StandsAt.readFrom {buffer rest : List UInt8} {start : Nat} {p : Pool}
    {records : List StoredEntry} (h : StandsAt buffer start p.count records rest)
    (hentries : p.entries = entriesOf records) (hstop : p.stop = offsetBehind start records) :
    p.ReadFrom buffer start records := by
  obtain ⟨front, rfl, rfl⟩ := h
  refine ⟨hentries.symm, ?_⟩
  rw [consumed, List.append_assoc, List.append_assoc, List.drop_left, ← List.append_assoc]
  apply List.take_left'
  rw [hstop, offsetBehind, List.length_append, BigEndian.length_encode]
  omega

/-- A decoded pool was read from records, and from no others. -/
theorem existsUnique_readFrom {buffer : List UInt8} {start : Nat} {p : Pool}
    (h : decode buffer start = .ok p) : ∃! records, p.ReadFrom buffer start records := by
  obtain ⟨records, rest, hstands, -, hentries, hstop⟩ := decode_eq_ok_iff.mp h
  have hread := hstands.readFrom hentries hstop
  refine ⟨records, hread, ?_⟩
  -- Other records of the same entries would take the same bytes apart in the same way.
  rintro other ⟨hother, heq⟩
  rw [hread.consumed_eq] at heq
  have hbytes : bytesOf other ++ [] = bytesOf records ++ [] := by
    rw [List.append_cancel_left heq]
  exact eq_of_append_eq (hother.trans hentries) hbytes

/-- **Writing what was decoded.** A decoded pool can be written exactly when its texts all fit.
What is written decodes to the same count and table, and it is what was read unless a text was
read in another form than the written one. -/
theorem write_decoded {buffer : List UInt8} {start : Nat} {p : Pool}
    (hdecode : decode buffer start = .ok p) :
    ((p.write.run none).outcome = .ok () ↔ AllFit p.entries) ∧
      ∀ bytes, p.write.run none = ⟨bytes, .ok ()⟩ →
        (∃ q, decode bytes 0 = .ok q ∧ q.count = p.count ∧ q.table = p.table ∧
          q.stop = bytes.length) ∧
        (∃! records, p.ReadFrom buffer start records) ∧
        ∀ records, p.ReadFrom buffer start records →
          (bytes = p.consumed buffer start ↔
            ∀ r ∈ records, ∀ text, r.entry = utf8 text →
              r.textBytes = Text.Modified.encode text) := by
  refine ⟨write_ok_iff p, fun bytes hwrite => ?_⟩
  have hfits : AllFit p.entries := by
    rw [← write_ok_iff, hwrite]
  rw [(delivers_write hfits).run_none] at hwrite
  obtain rfl : p.bytes = bytes := congrArg Written.bytes hwrite
  obtain ⟨_, _, _, hfills, hentries, _⟩ := decode_eq_ok_iff.mp hdecode
  rw [← hentries] at hfills
  -- The entries filled the count when they were decoded, so they fill it again.
  have hagain := decode_bytes hfills hfits [] []
  rw [List.append_nil, List.nil_append, List.length_nil, Nat.zero_add] at hagain
  refine ⟨⟨_, hagain, rfl, rfl, rfl⟩, existsUnique_readFrom hdecode, ?_⟩
  rintro records ⟨hrecords, hconsumed⟩
  rw [← hrecords] at hfits
  rw [hconsumed, bytes, ← hrecords, List.append_cancel_left_eq, eq_comm]
  exact bytesOf_eq_recordsOf_iff hfits

/-- A text that was read with its zero as a single byte is written in another form, and a double
that reaches past the count stays. -/
theorem write_decoded_zero_and_overshoot :
    ∃ bytes, (⟨3, [utf8 "A\x00", double 0x7FF8000000000001], 17⟩ : Pool).write.run none
        = ⟨bytes, .ok ()⟩ ∧
      ∃ q, decode bytes 0 = .ok q ∧ q.count = 3 ∧
        q.table = [(1, utf8 "A\x00"), (2, double 0x7FF8000000000001)] := by
  have hdecode : decode
      [0xFF, 0, 3, 1, 0, 2, 0x41, 0, 6, 0x7F, 0xF8, 0, 0, 0, 0, 0, 1, 0x77] 1
      = .ok ⟨3, [utf8 "A\x00", double 0x7FF8000000000001], 17⟩ := by
    decide +kernel
  obtain ⟨-, hwritten⟩ := write_decoded hdecode
  obtain ⟨⟨q, hq, hcount, htable, -⟩, -, -⟩ := hwritten _ rfl
  exact ⟨_, rfl, q, hq, hcount, htable⟩

end Pool

end ClassPool
