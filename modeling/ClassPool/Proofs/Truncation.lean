/-
Bytes that are cut short. Wherever a cut goes through a record, what is left of the record is
the beginning of one: its tag if anything, and behind it less payload than the tag or the length
asks for. So a cut is never mistaken for an unknown tag or a malformed text
(`IsRecord.unreadable_take`).

A cut through a pool leaves whole records in front of it and the beginning of one more, and the
records are read before the cut is met. The error therefore names the one record that covers the
position of the cut, or the count where the cut comes before all records, and behind the end of
the pool the cut is not noticed at all (`CutLaw`, `cutLaw_of_decode`).

A class file that is accepted keeps its header in front of every cut from there on, so the cut is
the decoder's to report. A cut through the header is reported by itself.
-/
import ClassPool.Proofs.ClassFile.Parsing
import ClassPool.Proofs.Pool.RoundTrip

set_option autoImplicit false

namespace ClassPool

namespace Entry

/-! ## 1. Records -/

theorem Payload.length_eq {e : Entry} {payload : List UInt8} {width : Nat}
    (h : Payload e payload) (hwidth : e.tag.payloadWidth? = some width) :
    payload.length = width := by
  cases h <;> simp only [tag, Tag.payloadWidth?, Option.some.injEq, reduceCtorEq] at hwidth <;>
    subst hwidth
  case integer | float => rw [BigEndian.length_encode]
  case long | double => rw [words_eq, BigEndian.length_encode]
  case classRef | stringRef => rw [BigEndian.length_encode]
  case fieldRef | methodRef | nameAndType =>
    rw [List.length_append, BigEndian.length_encode, BigEndian.length_encode]

/-- A text is cut either in its length or behind it, and behind it the length asks for more. -/
theorem unreadable_take_text {bytes : List UInt8} {n : Nat} (hlen : bytes.length ≤ 0xFFFF)
    (hn : n < (BigEndian.encode 2 bytes.length ++ bytes).length) :
    Unreadable (Tag.utf8.byte :: (BigEndian.encode 2 bytes.length ++ bytes).take n)
      .endOfInput := by
  by_cases hshort : n < 2
  · apply Unreadable.shortLength
    rw [List.length_take]
    omega
  · have hnum : (UInt16.ofNat bytes.length).toNat = bytes.length :=
      UInt16.toNat_ofNat_of_lt' (show _ < 0x10000 by omega)
    rw [List.length_append, BigEndian.length_encode] at hn
    have hrest : (bytes.take (n - 2)).length < (UInt16.ofNat bytes.length).toNat := by
      rw [hnum, List.length_take]
      omega
    have hfault := Unreadable.shortText hrest
    rw [List.take_append, List.take_of_length_le (by rw [BigEndian.length_encode]; omega),
      BigEndian.length_encode]
    rwa [hnum] at hfault

/-- **A record that is cut short ends too early**, and nothing else is wrong with it. -/
theorem IsRecord.unreadable_take {e : Entry} {record : List UInt8} (h : IsRecord e record)
    {n : Nat} (hn : n < record.length) : Unreadable (record.take n) .endOfInput := by
  obtain ⟨hpayload⟩ := h
  cases n with
  | zero => exact .noTag
  | succ n =>
      rw [List.length_cons, Nat.add_lt_add_iff_right] at hn
      rw [List.take_succ_cons]
      cases hwidth : e.tag.payloadWidth? with
      | some width =>
          have hlen := hpayload.length_eq hwidth
          apply Unreadable.shortPayload hwidth
          rw [List.length_take]
          omega
      | none =>
          -- only a text announces its own length
          cases hpayload with
          | utf8 hlen _ => exact unreadable_take_text hlen hn
          | _ => cases hwidth

end Entry

namespace Pool

open Entry StoredEntry

/-! ## 2. The record at a position -/

/-- Among records behind a count at an offset, the one at this place holds the byte at a
position of the buffer. -/
def Covers (start : Nat) (records : List StoredEntry) (position place : Nat) : Prop :=
  place < records.length ∧ offsetBehind start (records.take place) ≤ position ∧
    position < offsetBehind start (records.take (place + 1))

theorem offsetBehind_take_le (start : Nat) (records : List StoredEntry) {place other : Nat}
    (h : place ≤ other) :
    offsetBehind start (records.take place) ≤ offsetBehind start (records.take other) := by
  apply offsetBehind_le_of_prefix
  exact List.take_prefix_take_left h

theorem exists_covers {start position : Nat} {records : List StoredEntry}
    (hfirst : start + 2 ≤ position) (hlast : position < offsetBehind start records) :
    ∃ place, Covers start records position place := by
  induction records generalizing start with
  | nil =>
      rw [offsetBehind_nil] at hlast
      omega
  | cons r records ih =>
      by_cases hin : position < start + r.bytes.length + 2
      · refine ⟨0, Nat.zero_lt_succ _, hfirst, ?_⟩
        rw [List.take_succ_cons, List.take_zero, offsetBehind_cons, offsetBehind_nil]
        exact hin
      · rw [offsetBehind_cons] at hlast
        obtain ⟨place, hplace, hle, hlt⟩ := ih (by omega) hlast
        refine ⟨place + 1, Nat.succ_lt_succ hplace, ?_, ?_⟩
        · rw [List.take_succ_cons, offsetBehind_cons]
          exact hle
        · rw [List.take_succ_cons, offsetBehind_cons]
          exact hlt

/-- **A position among records is covered by exactly one of them.** -/
theorem existsUnique_covers {start position : Nat} {records : List StoredEntry}
    (hfirst : start + 2 ≤ position) (hlast : position < offsetBehind start records) :
    ∃! place, Covers start records position place := by
  obtain ⟨place, hcovers⟩ := exists_covers hfirst hlast
  refine ⟨place, hcovers, ?_⟩
  intro other hother
  obtain ⟨-, hle, hlt⟩ := hcovers
  obtain ⟨-, hle', hlt'⟩ := hother
  -- Of two places the record at the first would end before the record at the second starts.
  rcases Nat.lt_trichotomy other place with hbefore | heq | hbehind
  · have hmono := offsetBehind_take_le start records (show other + 1 ≤ place from hbefore)
    omega
  · exact heq
  · have hmono := offsetBehind_take_le start records (show place + 1 ≤ other from hbehind)
    omega

/-! ## 3. Pools -/

theorem StandsAt.take {buffer rest : List UInt8} {start : Nat} {count : UInt16}
    {records : List StoredEntry} (h : StandsAt buffer start count records rest) {length : Nat}
    (hlength : offsetBehind start records ≤ length) :
    StandsAt (buffer.take length) start count records
      (rest.take (length - offsetBehind start records)) := by
  obtain ⟨front, rfl, rfl⟩ := h
  have hfront : (front ++ BigEndian.encode 2 count.toNat ++ bytesOf records).length
      = offsetBehind front.length records := by
    rw [List.length_append, List.length_append, BigEndian.length_encode, offsetBehind]
  refine ⟨front, rfl, ?_⟩
  rw [List.take_append, List.take_of_length_le (by rw [hfront]; exact hlength), hfront]

theorem StandsAt.front {buffer rest : List UInt8} {start : Nat} {count : UInt16}
    {before after : List StoredEntry} {r : StoredEntry}
    (h : StandsAt buffer start count (before ++ r :: after) rest) :
    StandsAt buffer start count before (r.bytes ++ (bytesOf after ++ rest)) := by
  obtain ⟨front, hfront, hbuffer⟩ := h
  refine ⟨front, hfront, ?_⟩
  rw [hbuffer, bytesOf_append, bytesOf_cons]
  simp only [List.append_assoc]

/-- A cut through a record ends the decoding there. -/
theorem StandsAt.decode_take {buffer rest : List UInt8} {start : Nat} {count : UInt16}
    {before after : List StoredEntry} {r : StoredEntry}
    (h : StandsAt buffer start count (before ++ r :: after) rest)
    (hindex : indexBehind before < count.toNat) {length : Nat}
    (hle : offsetBehind start before ≤ length)
    (hlt : length < offsetBehind start before + r.bytes.length) :
    decode (buffer.take length) start
      = .error (.cutShort (indexBehind before) (offsetBehind start before)) := by
  have hcut : length - offsetBehind start before < r.bytes.length := by omega
  have hstands := h.front.take hle
  rw [List.take_append_of_le_length (Nat.le_of_lt hcut)] at hstands
  rw [decode, hstands.decoding_of_unreadable hindex (r.isRecord.unreadable_take hcut),
    DecodeError.ofFault]

/-- What decoding makes of the first bytes of a buffer that holds a pool. -/
structure CutLaw (buffer : List UInt8) (start : Nat) (p : Pool) : Prop where
  /-- A cut behind the pool changes nothing. -/
  behind : ∀ length, p.stop ≤ length → decode (buffer.take length) start = .ok p
  /-- A cut in front of the pool or through its count is reported at the count. -/
  count : ∀ length, length < start + 2 →
    decode (buffer.take length) start = .error (.cutShort 0 start)
  stored : ∃! records, p.ReadFrom buffer start records
  /-- Any other position is covered by one record, and a cut there is reported with the index
  of this entry and the offset of its tag. -/
  covered : ∀ records, p.ReadFrom buffer start records →
    ∀ length, start + 2 ≤ length → length < p.stop →
      (∃! place, Covers start records length place) ∧
        ∀ place, Covers start records length place →
          ∃ index e, p.table[place]? = some (index, e) ∧
            buffer[offsetBehind start (records.take place)]? = some e.tag.byte ∧
            decode (buffer.take length) start
              = .error (.cutShort index (offsetBehind start (records.take place)))

/-- **Every pool that is decoded obeys the law of cuts.** -/
theorem cutLaw_of_decode {buffer : List UInt8} {start : Nat} {p : Pool}
    (h : decode buffer start = .ok p) : CutLaw buffer start p := by
  obtain ⟨records, rest, hstands, hfills, hentries, hstop⟩ := decode_eq_ok_iff.mp h
  refine ⟨?_, ?_, existsUnique_readFrom h, ?_⟩
  · intro length hlength
    rw [hstop] at hlength
    exact decode_eq_ok_iff.mpr ⟨records, _, hstands.take hlength, hfills, hentries, hstop⟩
  · intro length hlength
    apply decode_short
    rw [List.length_take]
    omega
  · intro others hothers length hfirst hlast
    obtain rfl : others = records :=
      (existsUnique_readFrom h).unique hothers (hstands.readFrom hentries hstop)
    rw [hstop] at hlast
    refine ⟨existsUnique_covers hfirst hlast, ?_⟩
    rintro place ⟨hplace, hle, hlt⟩
    have hsplit : others = others.take place ++ others[place] :: others.drop (place + 1) := by
      rw [← List.drop_eq_getElem_cons hplace, List.take_append_drop]
    have hentry : p.entries[place]? = some others[place].entry := by
      rw [hentries, entriesOf, List.getElem?_map, List.getElem?_eq_getElem hplace,
        Option.map_some]
    have htake : entriesOf (others.take place) = p.entries.take place := by
      rw [hentries, entriesOf, entriesOf, List.map_take]
    have hindex : indexBehind (others.take place) < p.count.toNat := by
      rw [indexBehind, htake, hentries]
      exact hfills.starts place (by rw [entriesOf, List.length_map]; exact hplace)
    rw [List.take_succ_eq_append_getElem hplace, offsetBehind_append, bytesOf_cons, bytesOf_nil,
      List.append_nil] at hlt
    rw [hsplit] at hstands
    refine ⟨indexBehind (others.take place), others[place].entry, ?_, ?_, ?_⟩
    · rw [table_eq_indexed, indexed, List.getElem?_mapIdx, hentry, Option.map_some, indexBehind,
        htake]
    · rw [← List.head?_drop, hstands.front.drop_eq]
      exact others[place].isRecord.head?_append _
    · exact hstands.decode_take hindex hle hlt

end Pool

/-! ## 4. Class files -/

namespace ClassFile

open Pool

/-- A class file that is cut in its pool is rejected with the error of the decoder, which is that
of a cut. -/
theorem value_parse_take {bytes : List UInt8} {options : Options} {c : ClassFile}
    (h : (parse bytes options).value = .ok c) {length : Nat} (hheader : Header.length ≤ length)
    (hlength : length < c.constantPool.stop) :
    ∃ index offset,
      Pool.decode (bytes.take length) Header.length = .error (.cutShort index offset) ∧
        (parse (bytes.take length) options).value
          = .error (.malformed (.cutShort index offset)) := by
  obtain ⟨header, hread, hmagic, haccepts, -, hdecode⟩ := value_parse_eq_ok_iff.mp h
  have hlaw := cutLaw_of_decode hdecode
  have hcut : ∃ index offset,
      Pool.decode (bytes.take length) Header.length = .error (.cutShort index offset) := by
    by_cases hcount : length < Header.length + 2
    · exact ⟨0, Header.length, hlaw.count length hcount⟩
    · obtain ⟨records, hrecords, -⟩ := hlaw.stored
      obtain ⟨⟨place, hplace, -⟩, hcovered⟩ :=
        hlaw.covered records hrecords length (Nat.le_of_not_lt hcount) hlength
      obtain ⟨index, -, -, -, herror⟩ := hcovered place hplace
      exact ⟨index, _, herror⟩
  obtain ⟨index, offset, herror⟩ := hcut
  refine ⟨index, offset, herror, ?_⟩
  rw [value_parse_of_accepted (Header.read?_take hread hheader) hmagic haccepts, herror]

/-- **What is cut short is rejected as cut short, and as nothing else.** A cut buffer decodes as
`CutLaw` says, and an accepted class file that is cut before the end of its pool is rejected for
the end of its bytes if the cut goes through the header, and as the decoder rejects it
otherwise. -/
theorem decode_take_and_parse_take :
    (∀ buffer start p, Pool.decode buffer start = .ok p → CutLaw buffer start p) ∧
      ∀ bytes options c, (parse bytes options).value = .ok c →
        CutLaw bytes Header.length c.constantPool ∧
          ∀ length < c.constantPool.stop,
            (length < Header.length →
              (parse (bytes.take length) options).value
                = .error (.malformed (.cutShort 0 length))) ∧
            (Header.length ≤ length →
              ∃ index offset,
                Pool.decode (bytes.take length) Header.length
                    = .error (.cutShort index offset) ∧
                  (parse (bytes.take length) options).value
                    = .error (.malformed (.cutShort index offset))) := by
  refine ⟨fun _ _ _ => cutLaw_of_decode, ?_⟩
  intro bytes options c h
  obtain ⟨header, hread, -, -, -, hdecode⟩ := value_parse_eq_ok_iff.mp h
  refine ⟨cutLaw_of_decode hdecode, ?_⟩
  intro length hlength
  refine ⟨?_, fun hheader => value_parse_take h hheader hlength⟩
  intro hshort
  -- The bytes suffice for a header, so the cut has them end where it is made.
  have hcut : (bytes.take length).length = length := by
    have hlong : ¬ bytes.length < Header.length := by
      rw [← Header.read?_eq_none_iff, hread]
      simp
    rw [List.length_take]
    omega
  have herror := value_parse_of_none options (show (bytes.take length).length < Header.length by
    rw [hcut]
    exact hshort)
  rwa [hcut] at herror

/-- A text and an integer behind a header: the cuts go through the minor version, through the
payload of the integer, and behind the pool. -/
theorem decode_take_and_parse_take_integer :
    ∃ bytes options c, (parse bytes options).value = .ok c ∧
      c.constantPool.table = [(1, .utf8 "A"), (2, .integer 7)] ∧ c.constantPool.stop = 19 ∧
      (parse (bytes.take 5) options).value = .error (.malformed (.cutShort 0 5)) ∧
      (parse (bytes.take 17) options).value = .error (.malformed (.cutShort 2 14)) ∧
      Pool.decode (bytes.take 19) 8 = .ok c.constantPool := by
  have hparse : (parse [0xCA, 0xFE, 0xBA, 0xBE, 0, 0, 0, 55,
        0, 3, 1, 0, 1, 0x41, 3, 0, 0, 0, 7, 0xFF] Options.standard).value
      = .ok ⟨⟨0, 55⟩, ⟨3, [.utf8 "A", .integer 7], 19⟩⟩ := by
    decide +kernel
  obtain ⟨hlaw, hcut⟩ := decode_take_and_parse_take.2 _ _ _ hparse
  obtain ⟨hheader, -⟩ := hcut 5 (by decide)
  obtain ⟨-, hpool⟩ := hcut 17 (by decide)
  obtain ⟨index, offset, hdecode, herror⟩ := hpool (by decide)
  have hplace : Pool.decode ([0xCA, 0xFE, 0xBA, 0xBE, 0, 0, 0, 55,
        0, 3, 1, 0, 1, 0x41, 3, 0, 0, 0, 7, 0xFF].take 17) Header.length
      = .error (.cutShort 2 14) := by
    decide +kernel
  rw [hplace] at hdecode
  cases hdecode
  exact ⟨_, _, _, hparse, rfl, rfl, hheader (by decide), herror,
    hlaw.behind 19 (Nat.le_refl 19)⟩

end ClassFile

end ClassPool
