/-
What a decode logs. Every record that is read leaves a line with its index, the offset of its tag
and its text, and a pool that is decoded leaves one more line with its extent. So the log can be
held against the buffer: `Traced` says that lines name entries where their records stand, one right
behind the other.

Decoding goes over the records behind the count, and `traced_along` follows it: the records that a
run meets are traced in the buffer. It is the run and not its result that is traced, so a decode
that fails leaves the lines of all records in front of the one at fault. The error then has the
offset at which these lines end.
-/
import ClassPool.Event
import ClassPool.Proofs.Pool.Locality

set_option autoImplicit false

namespace ClassPool

/-- An event as a log shows it. -/
def Event.line (event : Event) : Level × String :=
  (event.level, event.message)

/-- The lines that a decode of a pool from an offset logs. -/
def Decoding.log (decoding : Decoding) (start : Nat) : List (Level × String) :=
  (decoding.events start).map Event.line

namespace Pool

open Entry StoredEntry

/-! ## 1. Lines held against a buffer -/

/-- Lines trace entries with their indices through a buffer, from an offset to another: each entry
has one of its records there, starting with its tag, right behind the record of the entry before,
and one line with its index, the offset of its record and its text. -/
inductive Traced (buffer : List UInt8) :
    Nat → List (Nat × Entry) → List (Level × String) → Nat → Prop where
  | done (offset : Nat) : Traced buffer offset [] [] offset
  | record {offset stop index : Nat} {e : Entry} {pairs : List (Nat × Entry)}
      {lines : List (Level × String)} {bytes rest : List UInt8}
      (hrecord : IsRecord e bytes) (hbytes : buffer.drop offset = bytes ++ rest)
      (htag : buffer[offset]? = some e.tag.byte)
      (hnext : Traced buffer (offset + bytes.length) pairs lines stop) :
      Traced buffer offset ((index, e) :: pairs)
        ((.trace, "#" ++ Numeral.decimal index ++ " at " ++ Numeral.offset offset ++ ": " ++
          e.display) :: lines)
        stop

/-- The records that a run meets are traced where they stand. -/
theorem traced_along {buffer rest : List UInt8} {offset : Nat} {records : List StoredEntry}
    (h : buffer.drop offset = bytesOf records ++ rest) (index : Nat) :
    Traced buffer offset (number index (entriesOf records))
      ((Record.along index offset records).map fun record => (Event.recordRead record).line)
      (offset + (bytesOf records).length) := by
  induction records generalizing offset index with
  | nil => exact .done offset
  | cons r records ih =>
      rw [bytesOf_cons, List.append_assoc] at h
      have hbehind : buffer.drop (offset + r.bytes.length) = bytesOf records ++ rest := by
        rw [← List.drop_drop, h, List.drop_left]
      have htag : buffer[offset]? = some r.entry.tag.byte := by
        rw [← List.head?_drop, h]
        exact r.isRecord.head?_append _
      have hnext := ih hbehind (index + r.entry.slots)
      rw [Nat.add_assoc, ← List.length_append, ← bytesOf_cons] at hnext
      rw [entriesOf_cons, number_cons, Record.along, List.map_cons]
      exact .record r.isRecord h htag hnext

/-! ## 2. Records behind a count -/

theorem StandsAt.drop_count {buffer rest : List UInt8} {start : Nat} {count : UInt16}
    {records : List StoredEntry} (h : StandsAt buffer start count records rest) :
    buffer.drop (start + 2) = bytesOf records ++ rest := by
  obtain ⟨front, rfl, rfl⟩ := h
  rw [List.append_assoc]
  apply List.drop_left'
  rw [List.length_append, BigEndian.length_encode]

theorem StandsAt.traced {buffer rest : List UInt8} {start : Nat} {count : UInt16}
    {records : List StoredEntry} (h : StandsAt buffer start count records rest) :
    Traced buffer (start + 2) (indexed (entriesOf records))
      ((Record.along 1 (start + 2) records).map fun record => (Event.recordRead record).line)
      (offsetBehind start records) := by
  have htraced := traced_along h.drop_count 1
  rwa [number_eq_mapIdx] at htraced

/-- A decode that gives a pool logs its records and its extent. -/
theorem log_of_ok {decoding : Decoding} {p : Pool} (h : decoding.outcome = .ok p) (start : Nat) :
    decoding.log start
      = decoding.records.map (fun record => (Event.recordRead record).line)
        ++ [(Event.poolDecoded p.size (p.count.toNat - 1) start p.stop).line] := by
  rw [Decoding.log, Decoding.events, h, List.map_append, List.map_map]
  rfl

/-- A decode that fails logs its records and nothing else. -/
theorem log_of_error {decoding : Decoding} {error : DecodeError}
    (h : decoding.outcome = .error error) (start : Nat) :
    decoding.log start
      = decoding.records.map fun record => (Event.recordRead record).line := by
  rw [Decoding.log, Decoding.events, h, List.append_nil, List.map_map]
  rfl

/-! ## 3. The log -/

/-- **The log tells the truth about the decode.** A decode that gives a pool traces its table from
the offset behind the count to the end of the pool, and closes with one line on its extent. A decode
that fails behind the count traces the longest run of records there, and nothing else, and its error
has the offset at which the trace ends. Where there is no count nothing is logged. -/
theorem log_truthful (buffer : List UInt8) (start : Nat) :
    (∀ p, decode buffer start = .ok p →
      ∃ lines, Traced buffer (start + 2) p.table lines p.stop ∧
        (decoding buffer start).log start = lines ++
          [(.debug, "decoded " ++ Numeral.decimal p.size ++ " constant pool entries (" ++
            Numeral.decimal (p.count.toNat - 1) ++ " slots), bytes " ++ Numeral.offset start ++
            ".." ++ Numeral.offset p.stop)]) ∧
    ∀ error, decode buffer start = .error error →
      (buffer.length < start + 2 ∧ error = .cutShort 0 start ∧
        (decoding buffer start).log start = []) ∨
      ∃ count records rest stop, StandsAt buffer start count records rest ∧
        (∀ more rest', StandsAt buffer start count more rest' → more <+: records) ∧
        Traced buffer (start + 2) (indexed (entriesOf records))
          ((decoding buffer start).log start) stop ∧
        error.offset = stop ∧ error.index? ≠ some 0 := by
  refine ⟨fun p hp => ?_, fun error herror => ?_⟩
  · obtain ⟨records, rest, hstands, hfills, hentries, hstop⟩ := decode_eq_ok_iff.mp hp
    have hrecords : (decoding buffer start).records = Record.along 1 (start + 2) records := by
      rw [hstands.decoding_of_fills hfills]
    refine ⟨_, ?_, log_of_ok hp start⟩
    rw [hrecords, table_eq_indexed, hentries, hstop]
    exact hstands.traced
  · rcases decode_eq_error_iff.mp herror with
      ⟨hshort, rfl⟩ | ⟨count, records, rest, fault, hstands, hindex, hfault, rfl⟩
    · refine .inl ⟨hshort, rfl, ?_⟩
      rw [log_of_error herror, decoding_short hshort, List.map_nil]
    · have hrecords : (decoding buffer start).records = Record.along 1 (start + 2) records := by
        rw [hstands.decoding_of_unreadable hindex hfault]
      refine .inr ⟨count, records, rest, _, hstands, fun _ _ => hstands.isPrefix hfault, ?_,
        DecodeError.offset_ofFault _ _ _, ?_⟩
      · rw [log_of_error herror, hrecords]
        exact hstands.traced
      · -- the index behind records is one at least
        intro hzero
        have heq := DecodeError.eq_of_mem_index?_ofFault hzero
        rw [indexBehind] at heq
        omega

/-- A zero stored in a single byte is traced where it stands, though it would be written in two. A
tag of no kind behind a string is found where the trace of the string ends. -/
theorem log_truthful_zero_and_unknownTag :
    (∃ lines, Traced [0, 2, 1, 0, 1, 0] 2 [(1, utf8 "\x00")] lines 6 ∧
      (decoding [0, 2, 1, 0, 1, 0] 0).log 0 = lines ++
        [(.debug, "decoded 1 constant pool entries (1 slots), bytes 0x0..0x6")]) ∧
    ∃ pairs, Traced [0, 3, 8, 0, 1, 11] 2 pairs ((decoding [0, 3, 8, 0, 1, 11] 0).log 0) 5 := by
  have hzero : decode [0, 2, 1, 0, 1, 0] 0 = .ok ⟨2, [utf8 "\x00"], 6⟩ := by decide +kernel
  have htag : decode [0, 3, 8, 0, 1, 11] 0 = .error (.unknownTag 11 5) := by decide +kernel
  refine ⟨(log_truthful _ _).1 _ hzero, ?_⟩
  rcases (log_truthful _ _).2 _ htag with ⟨hshort, -⟩ | ⟨_, _, _, stop, -, -, htraced, hstop, -⟩
  · exact absurd hshort (by decide)
  · rw [← hstop] at htraced
    exact ⟨_, htraced⟩

end Pool

end ClassPool
