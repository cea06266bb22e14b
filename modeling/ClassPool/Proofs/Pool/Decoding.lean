/-
What decoding accepts and what it refuses. A buffer that holds a pool holds, from an offset
on, the two bytes of a count and records behind them (`StandsAt`), and the entries of those
records fill the count: each starts below it and together they reach it (`Fills`). The last
of them may reach past the count, and there is none at all below a count of two.

From any offset with two bytes behind it a buffer can be taken apart into a count, records and
a rest such that either the entries fill the count or they do not reach it and the rest
cannot be read (`exists_standsAt`). Decoding gives the pool in the first case and the error of
that rest in the second. Its two exact conditions are read off from there:
`decode_eq_ok_iff_fills` and `decode_eq_error_iff_first_fault`.

A decoded pool keeps its entries and not the indices that the loop had counted up to when it met
them. Nothing is lost by that, as the table gives the entries these indices again
(`table_of_decode`).
-/
import ClassPool.Proofs.Pool.Records

set_option autoImplicit false

namespace ClassPool.Pool

open Entry StoredEntry

/-! ## 1. Pools in buffers -/

/-- A count and behind it records stand at an offset of a buffer, in front of a rest. -/
def StandsAt (buffer : List UInt8) (start : Nat) (count : UInt16) (records : List StoredEntry)
    (rest : List UInt8) : Prop :=
  ∃ front, front.length = start ∧
    buffer = front ++ BigEndian.encode 2 count.toNat ++ bytesOf records ++ rest

/-- Entries fill a count when each starts below it and the slots of all reach it. Indices start
at one. -/
structure Fills (count : Nat) (entries : List Entry) : Prop where
  starts : ∀ place < entries.length, 1 + totalSlots (entries.take place) < count
  reaches : count ≤ 1 + totalSlots entries

/-- Entries with their indices: each has one more than the slots of all before it. -/
def indexed (entries : List Entry) : List (Nat × Entry) :=
  entries.mapIdx fun place e => (1 + totalSlots (entries.take place), e)

/-- The index that follows records. -/
def indexBehind (records : List StoredEntry) : Nat :=
  1 + totalSlots (entriesOf records)

/-- The offset that follows a count at an offset and records behind it. -/
def offsetBehind (start : Nat) (records : List StoredEntry) : Nat :=
  start + 2 + (bytesOf records).length

theorem offsetBehind_nil (start : Nat) : offsetBehind start [] = start + 2 := rfl

theorem offsetBehind_cons (start : Nat) (r : StoredEntry) (records : List StoredEntry) :
    offsetBehind start (r :: records) = offsetBehind (start + r.bytes.length) records := by
  rw [offsetBehind, offsetBehind, bytesOf_cons, List.length_append]
  omega

theorem offsetBehind_append (start : Nat) (front back : List StoredEntry) :
    offsetBehind start (front ++ back)
      = offsetBehind start front + (bytesOf back).length := by
  rw [offsetBehind, offsetBehind, bytesOf_append, List.length_append, ← Nat.add_assoc]

theorem offsetBehind_le_of_prefix (start : Nat) {records more : List StoredEntry}
    (h : records <+: more) : offsetBehind start records ≤ offsetBehind start more := by
  obtain ⟨behind, rfl⟩ := h
  rw [offsetBehind_append]
  omega

theorem indexBehind_le_of_prefix {records more : List StoredEntry} (h : records <+: more) :
    indexBehind records ≤ indexBehind more := by
  obtain ⟨behind, rfl⟩ := h
  unfold indexBehind entriesOf
  rw [List.map_append, totalSlots_append]
  omega

theorem Fills.eq_nil_iff {count : Nat} {entries : List Entry} (h : Fills count entries) :
    entries = [] ↔ count ≤ 1 := by
  constructor
  · rintro rfl
    simpa using h.reaches
  · intro hcount
    cases entries with
    | nil => rfl
    | cons e rest =>
        have hfirst := h.starts 0 (by simp)
        simp at hfirst
        omega

/-- Numbering entries from an index on gives each the slots of all before it. -/
theorem number_eq_mapIdx (index : Nat) (entries : List Entry) :
    number index entries
      = entries.mapIdx fun place e => (index + totalSlots (entries.take place), e) := by
  induction entries generalizing index with
  | nil => rfl
  | cons e rest ih =>
      rw [number_cons, ih, List.mapIdx_cons]
      simp only [List.take_zero, totalSlots_nil, Nat.add_zero, List.take_succ_cons,
        totalSlots_cons, Nat.add_assoc]

theorem table_eq_indexed (p : Pool) : p.table = indexed p.entries :=
  number_eq_mapIdx 1 p.entries

/-- Entries can be read off from the table that numbers them. -/
theorem map_snd_number (index : Nat) (entries : List Entry) :
    (number index entries).map Prod.snd = entries := by
  induction entries generalizing index with
  | nil => rfl
  | cons e rest ih => rw [number_cons, List.map_cons, ih]

/-! ## 2. Taking a buffer apart -/

theorem StandsAt.into_eq {buffer rest : List UInt8} {start : Nat} {count : UInt16}
    {records : List StoredEntry} (h : StandsAt buffer start count records rest) :
    Cursor.into buffer start
      = ⟨start, BigEndian.encode 2 count.toNat ++ (bytesOf records ++ rest)⟩ := by
  obtain ⟨front, rfl, rfl⟩ := h
  rw [Cursor.into, List.append_assoc, List.append_assoc, List.drop_left]

/-- At an offset there stands one count. -/
theorem StandsAt.count_eq {buffer rest rest' : List UInt8} {start : Nat} {count count' : UInt16}
    {records more : List StoredEntry} (h : StandsAt buffer start count records rest)
    (h' : StandsAt buffer start count' more rest') : count = count' := by
  have hread := Cursor.readIndex_encode start count (bytesOf records ++ rest)
  rw [← h.into_eq, h'.into_eq, Cursor.readIndex_encode, Option.some.injEq,
    Prod.mk.injEq] at hread
  exact hread.1.symm

/-- What follows the records is what the buffer holds from there on. -/
theorem StandsAt.drop_eq {buffer rest : List UInt8} {start : Nat} {count : UInt16}
    {records : List StoredEntry} (h : StandsAt buffer start count records rest) :
    buffer.drop (offsetBehind start records) = rest := by
  obtain ⟨front, rfl, rfl⟩ := h
  apply List.drop_left'
  rw [List.length_append, List.length_append, BigEndian.length_encode, offsetBehind]

/-- Where two bytes are left, a count stands, and behind it records up to that count or up to
bytes that cannot be read. -/
theorem exists_standsAt {buffer : List UInt8} {start : Nat} (h : start + 2 ≤ buffer.length) :
    ∃ count records rest, StandsAt buffer start count records rest ∧
      StartBelow count.toNat 1 (entriesOf records) ∧
      (count.toNat ≤ indexBehind records ∨
        indexBehind records < count.toNat ∧ ∃ fault, Unreadable rest fault) := by
  have hdrop : 2 ≤ (buffer.drop start).length := by
    rw [List.length_drop]
    omega
  obtain ⟨count, behind, hcount⟩ := exists_index_append hdrop
  obtain ⟨records, rest, hrecords, hbelow, hend⟩ := exists_stored count.toNat 1 behind
  refine ⟨count, records, rest, ⟨buffer.take start, ?_, ?_⟩, hbelow, hend⟩
  · rw [List.length_take]
    omega
  · rw [List.append_assoc, List.append_assoc, ← hrecords, ← hcount, List.take_append_drop]

/-! ## 3. Decoding what stands there -/

theorem decoding_short {buffer : List UInt8} {start : Nat} (h : buffer.length < start + 2) :
    decoding buffer start = ⟨[], .error (.cutShort 0 start)⟩ := by
  have hnone : (Cursor.into buffer start).readIndex = none := by
    apply Cursor.readIndex_eq_none
    rw [Cursor.into, List.length_drop]
    omega
  rw [decoding, hnone]

theorem decode_short {buffer : List UInt8} {start : Nat} (h : buffer.length < start + 2) :
    decode buffer start = .error (.cutShort 0 start) := by
  rw [decode, decoding_short h]

/-- Decoding runs over the records behind the count and ends as the run does behind them. -/
theorem StandsAt.decoding_eq {buffer rest : List UInt8} {start : Nat} {count : UInt16}
    {records : List StoredEntry} {ending : Except DecodeError Cursor}
    (h : StandsAt buffer start count records rest)
    (hbelow : StartBelow count.toNat 1 (entriesOf records))
    (hending : Record.readOnto count.toNat (Record.along 1 (start + 2) records).reverse
        (indexBehind records) ⟨offsetBehind start records, rest⟩
      = (Record.along 1 (start + 2) records, ending)) :
    decoding buffer start
      = ⟨Record.along 1 (start + 2) records,
          ending.map fun last => ⟨count, entriesOf records, last.position⟩⟩ := by
  have hrun := Record.readOnto_stored hbelow [] (start + 2) rest
  rw [List.append_nil] at hrun
  rw [decoding, h.into_eq, Cursor.readIndex_encode]
  simp only [hrun.trans hending, Record.map_entry_along]

/-- Entries that fill the count are decoded. -/
theorem StandsAt.decoding_of_fills {buffer rest : List UInt8} {start : Nat} {count : UInt16}
    {records : List StoredEntry} (h : StandsAt buffer start count records rest)
    (hfills : Fills count.toNat (entriesOf records)) :
    decoding buffer start
      = ⟨Record.along 1 (start + 2) records,
          .ok ⟨count, entriesOf records, offsetBehind start records⟩⟩ := by
  have hending := Record.readOnto_reached hfills.reaches
    (Record.along 1 (start + 2) records).reverse ⟨offsetBehind start records, rest⟩
  rw [List.reverse_reverse] at hending
  exact h.decoding_eq hfills.starts hending

/-- Bytes that cannot be read below the count end the decoding with their fault. -/
theorem StandsAt.decoding_of_unreadable {buffer rest : List UInt8} {start : Nat} {count : UInt16}
    {records : List StoredEntry} {fault : RecordFault}
    (h : StandsAt buffer start count records rest)
    (hindex : indexBehind records < count.toNat) (hfault : Unreadable rest fault) :
    decoding buffer start
      = ⟨Record.along 1 (start + 2) records,
          .error (.ofFault (indexBehind records) (offsetBehind start records) fault)⟩ := by
  have hending := Record.readOnto_unreadable hindex
    (Record.along 1 (start + 2) records).reverse (c := ⟨offsetBehind start records, rest⟩) hfault
  rw [List.reverse_reverse] at hending
  exact h.decoding_eq (startBelow_of_le (Nat.le_of_lt hindex)) hending

/-- The indices of the records that a decode meets are those of their entries one after the other,
also when it fails behind them. -/
theorem map_records (buffer : List UInt8) (start : Nat) :
    (decoding buffer start).records.map (fun record => (record.index, record.entry))
      = number 1 ((decoding buffer start).records.map Record.entry) := by
  cases hcount : (Cursor.into buffer start).readIndex with
  | none =>
      rw [decoding, hcount]
      rfl
  | some pair =>
      obtain ⟨met, hmet, hnumber⟩ := Record.exists_met pair.1.toNat [] 1 pair.2
      rw [List.reverse_nil, List.nil_append] at hmet
      rw [decoding, hcount]
      dsimp only
      rw [hmet]
      exact hnumber

/-! ## 4. What is accepted -/

/-- Decoding gives a pool exactly where one stands. -/
theorem decode_eq_ok_iff {buffer : List UInt8} {start : Nat} {p : Pool} :
    decode buffer start = .ok p ↔
      ∃ records rest, StandsAt buffer start p.count records rest ∧
        Fills p.count.toNat (entriesOf records) ∧ p.entries = entriesOf records ∧
        p.stop = offsetBehind start records := by
  constructor
  · intro h
    have hlen : start + 2 ≤ buffer.length := by
      apply Nat.le_of_not_lt
      intro hshort
      rw [decode_short hshort] at h
      cases h
    -- Of the two ways in which a buffer comes apart only the first gives a pool.
    obtain ⟨count, records, rest, hstands, hbelow, hreach | ⟨hindex, fault, hfault⟩⟩ :=
      exists_standsAt hlen
    · have hfills : Fills count.toNat (entriesOf records) := ⟨hbelow, hreach⟩
      rw [decode, hstands.decoding_of_fills hfills, Except.ok.injEq] at h
      subst h
      exact ⟨records, rest, hstands, hfills, rfl, rfl⟩
    · rw [decode, hstands.decoding_of_unreadable hindex hfault] at h
      cases h
  · rintro ⟨records, rest, hstands, hfills, hentries, hstop⟩
    rw [decode, hstands.decoding_of_fills hfills, ← hentries, ← hstop]

theorem entries_of_decode {buffer : List UInt8} {start : Nat} {p : Pool}
    (h : decode buffer start = .ok p) :
    p.entries = (decoding buffer start).records.map Record.entry := by
  obtain ⟨records, rest, hstands, hfills, hentries, -⟩ := decode_eq_ok_iff.mp h
  rw [hstands.decoding_of_fills hfills, Record.map_entry_along, hentries]

/-- **The indices of the decode loop are those of the table.** -/
theorem table_of_decode {buffer : List UInt8} {start : Nat} {p : Pool}
    (h : decode buffer start = .ok p) :
    (decoding buffer start).records.map (fun record => (record.index, record.entry))
      = p.table := by
  rw [map_records, ← entries_of_decode h, table]

/-- **Decoding accepts exactly the buffers in which a pool stands**, and gives the pool that
stands there: its count, its entries at their indices and the offset behind its last record. -/
theorem decode_eq_ok_iff_fills (buffer : List UInt8) (start : Nat) (p : Pool) :
    decode buffer start = .ok p ↔
      ∃ records rest, StandsAt buffer start p.count records rest ∧
        Fills p.count.toNat (entriesOf records) ∧
        (records = [] ↔ p.count.toNat ≤ 1) ∧
        p.table = indexed (entriesOf records) ∧
        p.stop = start + 2 + (bytesOf records).length := by
  rw [decode_eq_ok_iff]
  constructor
  · rintro ⟨records, rest, hstands, hfills, hentries, hstop⟩
    refine ⟨records, rest, hstands, hfills, ?_, ?_, hstop⟩
    · rw [← hfills.eq_nil_iff, entriesOf, List.map_eq_nil_iff]
    · rw [table_eq_indexed, hentries]
  · rintro ⟨records, rest, hstands, hfills, -, htable, hstop⟩
    refine ⟨records, rest, hstands, hfills, ?_, hstop⟩
    rw [← map_snd_number 1 p.entries, ← table, htable, indexed, ← number_eq_mapIdx,
      map_snd_number]

/-! ## 5. What is refused -/

/-- Decoding fails exactly where the count is cut short or bytes below it cannot be read. -/
theorem decode_eq_error_iff {buffer : List UInt8} {start : Nat} {error : DecodeError} :
    decode buffer start = .error error ↔
      (buffer.length < start + 2 ∧ error = .cutShort 0 start) ∨
      ∃ count records rest fault, StandsAt buffer start count records rest ∧
        indexBehind records < count.toNat ∧ Unreadable rest fault ∧
        error = .ofFault (indexBehind records) (offsetBehind start records) fault := by
  constructor
  · intro h
    rcases Nat.lt_or_ge buffer.length (start + 2) with hshort | hlen
    · rw [decode_short hshort, Except.error.injEq] at h
      exact .inl ⟨hshort, h.symm⟩
    -- Here it is the second way that is left.
    · obtain ⟨count, records, rest, hstands, hbelow, hreach | ⟨hindex, fault, hfault⟩⟩ :=
        exists_standsAt hlen
      · rw [decode, hstands.decoding_of_fills ⟨hbelow, hreach⟩] at h
        cases h
      · rw [decode, hstands.decoding_of_unreadable hindex hfault, Except.error.injEq] at h
        exact .inr ⟨count, records, rest, fault, hstands, hindex, hfault, h.symm⟩
  · rintro (⟨hshort, rfl⟩ | ⟨count, records, rest, fault, hstands, hindex, hfault, rfl⟩)
    · exact decode_short hshort
    · rw [decode, hstands.decoding_of_unreadable hindex hfault]

/-- Records in front of bytes that cannot be read are the longest run behind their count. -/
theorem StandsAt.isPrefix {buffer rest rest' : List UInt8} {start : Nat} {count : UInt16}
    {records more : List StoredEntry} {fault : RecordFault}
    (h : StandsAt buffer start count records rest) (hfault : Unreadable rest fault)
    (hmore : StandsAt buffer start count more rest') : more <+: records := by
  have heq := hmore.into_eq
  rw [h.into_eq, Cursor.mk.injEq] at heq
  exact isPrefix_of_unreadable hfault (List.append_cancel_left heq.2).symm

/-- Bytes start with the tag of no kind exactly when their first byte is none. -/
theorem unreadable_unknownTag_iff {bytes : List UInt8} {tag : UInt8} :
    Unreadable bytes (.unknownTag tag) ↔
      bytes.head? = some tag ∧ ∀ kind : Tag, kind.byte ≠ tag := by
  constructor
  · intro h
    cases h with
    | unknownTag hbyte => exact ⟨rfl, hbyte⟩
  · rintro ⟨hhead, hbyte⟩
    obtain ⟨rest, rfl⟩ := List.head?_eq_some_iff.mp hhead
    exact .unknownTag hbyte

/-- **The error of a decoding names the first record that is none.** Either the count is cut
short, or behind the count stands the longest run of records there is, it does not reach the
count, and the bytes behind it decide: the error has the index and the offset that follow the
run. -/
theorem decode_eq_error_iff_first_fault (buffer : List UInt8) (start : Nat)
    (error : DecodeError) :
    decode buffer start = .error error ↔
      (buffer.length < start + 2 ∧ error = .cutShort 0 start) ∨
      ∃ count records rest, StandsAt buffer start count records rest ∧
        (∀ more rest', StandsAt buffer start count more rest' → more <+: records) ∧
        indexBehind records < count.toNat ∧
        ((∃ tag, buffer[offsetBehind start records]? = some tag ∧
            (∀ kind : Tag, kind.byte ≠ tag) ∧
            error = .unknownTag tag (offsetBehind start records)) ∨
          (Unreadable rest .endOfInput ∧
            error = .cutShort (indexBehind records) (offsetBehind start records)) ∨
          (∃ cause, Unreadable rest (.malformedText cause) ∧
            error = .malformedText (indexBehind records) (offsetBehind start records) cause)) := by
  rw [decode_eq_error_iff]
  constructor
  · rintro (hshort | ⟨count, records, rest, fault, hstands, hindex, hfault, rfl⟩)
    · exact .inl hshort
    refine .inr ⟨count, records, rest, hstands, fun _ _ => hstands.isPrefix hfault, hindex, ?_⟩
    -- The bytes that follow the records are what the buffer holds at the offset behind them.
    cases fault with
    | unknownTag tag =>
        obtain ⟨hhead, hkind⟩ := unreadable_unknownTag_iff.mp hfault
        rw [← hstands.drop_eq, List.head?_drop] at hhead
        exact .inl ⟨tag, hhead, hkind, rfl⟩
    | endOfInput => exact .inr (.inl ⟨hfault, rfl⟩)
    | malformedText cause => exact .inr (.inr ⟨cause, hfault, rfl⟩)
  · rintro (hshort | ⟨count, records, rest, hstands, -, hindex, hverdict⟩)
    · exact .inl hshort
    rcases hverdict with ⟨tag, hhead, hkind, rfl⟩ | ⟨hfault, rfl⟩ | ⟨cause, hfault, rfl⟩
    · rw [← List.head?_drop, hstands.drop_eq] at hhead
      exact .inr ⟨count, records, rest, .unknownTag tag, hstands, hindex,
        unreadable_unknownTag_iff.mpr ⟨hhead, hkind⟩, rfl⟩
    · exact .inr ⟨count, records, rest, _, hstands, hindex, hfault, rfl⟩
    · exact .inr ⟨count, records, rest, _, hstands, hindex, hfault, rfl⟩

end ClassPool.Pool
