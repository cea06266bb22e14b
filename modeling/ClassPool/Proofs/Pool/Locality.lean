/-
What decoding does not look at. A pool stands where it stands whatever else the buffer holds:
bytes in front of it only change where it starts (`StandsAt.append_front`), and bytes behind it
only become part of what follows its records (`StandsAt.append_behind`). The same holds of bytes
that cannot be read, as long as it is not their end that is at fault: an unknown tag and a
malformed text are seen without what follows them (`Unreadable.append`).

A buffer that ends too early is the one case in which more bytes make a difference. They
cannot take back what was read already, because the records that were complete before are
the first of those in the longer buffer. So an error, if there still is one, is found no
earlier than the end was (`le_of_decode_cutShort`).
-/
import ClassPool.Proofs.Pool.Decoding

set_option autoImplicit false

namespace ClassPool

/-! ## 1. Errors in a buffer with more in front -/

namespace DecodeError

def offset : DecodeError → Nat
  | cutShort _ offset => offset
  | unknownTag _ offset => offset
  | malformedText _ offset _ => offset

/-- The index of the record at fault. A tag of no kind is only named by its offset. -/
def index? : DecodeError → Option Nat
  | cutShort index _ => some index
  | unknownTag _ _ => none
  | malformedText index _ _ => some index

/-- The error with its offset counted from a place that lies further in front. -/
def movedBy (distance : Nat) : DecodeError → DecodeError
  | cutShort index offset => cutShort index (distance + offset)
  | unknownTag tag offset => unknownTag tag (distance + offset)
  | malformedText index offset cause => malformedText index (distance + offset) cause

theorem movedBy_ofFault (distance index offset : Nat) (fault : RecordFault) :
    (ofFault index offset fault).movedBy distance = ofFault index (distance + offset) fault := by
  cases fault <;> rfl

theorem offset_ofFault (index offset : Nat) (fault : RecordFault) :
    (ofFault index offset fault).offset = offset := by
  cases fault <;> rfl

theorem eq_of_mem_index?_ofFault {index offset i : Nat} {fault : RecordFault}
    (h : i ∈ (ofFault index offset fault).index?) : i = index := by
  cases fault with
  | unknownTag tag => cases h
  | endOfInput => exact (Option.mem_some.mp h).symm
  | malformedText cause => exact (Option.mem_some.mp h).symm

end DecodeError

/-! ## 2. Records in a longer buffer -/

namespace Entry

/-- What is wrong with bytes stays wrong with more bytes behind them, unless it is that they
end. -/
theorem Unreadable.append {bytes : List UInt8} {fault : RecordFault} (h : Unreadable bytes fault)
    (hend : fault ≠ .endOfInput) (behind : List UInt8) : Unreadable (bytes ++ behind) fault := by
  cases h with
  | unknownTag hbyte => exact .unknownTag hbyte
  | malformedText hlen hstandard hmodified =>
      rw [List.cons_append, List.append_assoc, List.append_assoc]
      exact .malformedText hlen hstandard hmodified
  | noTag | shortPayload | shortLength | shortText => exact absurd rfl hend

end Entry

namespace Pool

open Entry StoredEntry

/-- The pool with its end counted from a place that lies further in front. -/
def movedBy (distance : Nat) (p : Pool) : Pool :=
  { p with stop := distance + p.stop }

theorem offsetBehind_add (distance start : Nat) (records : List StoredEntry) :
    offsetBehind (distance + start) records = distance + offsetBehind start records := by
  unfold offsetBehind
  omega

section

variable {buffer rest : List UInt8} {start : Nat} {count : UInt16} {records : List StoredEntry}

theorem StandsAt.append_front (h : StandsAt buffer start count records rest)
    (front : List UInt8) :
    StandsAt (front ++ buffer) (front.length + start) count records rest := by
  obtain ⟨before, rfl, rfl⟩ := h
  refine ⟨front ++ before, List.length_append, ?_⟩
  simp only [List.append_assoc]

theorem StandsAt.append_behind (h : StandsAt buffer start count records rest)
    (behind : List UInt8) :
    StandsAt (buffer ++ behind) start count records (rest ++ behind) := by
  obtain ⟨before, hbefore, rfl⟩ := h
  refine ⟨before, hbefore, ?_⟩
  simp only [List.append_assoc]

/-- Where a count stands the buffer does not end before it. -/
theorem StandsAt.le_length (h : StandsAt buffer start count records rest) :
    start + 2 ≤ buffer.length := by
  obtain ⟨before, rfl, rfl⟩ := h
  simp only [List.length_append, BigEndian.length_encode]
  omega

end

/-! ## 3. Bytes in front -/

/-- **Bytes in front of a pool move its offsets** and change nothing else. -/
theorem decode_append_front (front buffer : List UInt8) (start : Nat) :
    decode (front ++ buffer) (front.length + start)
      = ((decode buffer start).map (movedBy front.length)).mapError
          (DecodeError.movedBy front.length) := by
  cases h : decode buffer start with
  | ok p =>
      obtain ⟨records, rest, hstands, hfills, hentries, hstop⟩ := decode_eq_ok_iff.mp h
      change _ = Except.ok (p.movedBy front.length)
      rw [decode_eq_ok_iff]
      refine ⟨records, rest, hstands.append_front front, hfills, hentries, ?_⟩
      rw [offsetBehind_add, ← hstop, movedBy]
  | error error =>
      change _ = Except.error (error.movedBy front.length)
      rw [decode_eq_error_iff]
      rcases decode_eq_error_iff.mp h with
        ⟨hshort, rfl⟩ | ⟨count, records, rest, fault, hstands, hindex, hfault, rfl⟩
      · left
        refine ⟨?_, rfl⟩
        rw [List.length_append]
        omega
      · right
        refine ⟨count, records, rest, fault, hstands.append_front front, hindex, hfault, ?_⟩
        rw [DecodeError.movedBy_ofFault, offsetBehind_add]

/-! ## 4. Bytes behind -/

/-- **Bytes behind a pool, or behind a record at fault, are not looked at.** -/
theorem decode_append_behind {buffer : List UInt8} {start : Nat}
    (h : ∀ index offset, decode buffer start ≠ .error (.cutShort index offset))
    (behind : List UInt8) : decode (buffer ++ behind) start = decode buffer start := by
  cases hdecode : decode buffer start with
  | ok p =>
      obtain ⟨records, rest, hstands, hfills, hentries, hstop⟩ := decode_eq_ok_iff.mp hdecode
      rw [decode_eq_ok_iff]
      exact ⟨records, rest ++ behind, hstands.append_behind behind, hfills, hentries, hstop⟩
  | error error =>
      rcases decode_eq_error_iff.mp hdecode with
        ⟨hshort, rfl⟩ | ⟨count, records, rest, fault, hstands, hindex, hfault, rfl⟩
      · exact absurd hdecode (h 0 start)
      · have hend : fault ≠ .endOfInput := by
          intro hfault
          rw [hfault] at hdecode
          exact h _ _ hdecode
        rw [decode_eq_error_iff]
        right
        exact ⟨count, records, rest ++ behind, fault, hstands.append_behind behind, hindex,
          hfault.append hend behind, rfl⟩

/-- **More bytes behind a pool that is cut short** move its error on, if they do not remove it. -/
theorem le_of_decode_cutShort {buffer behind : List UInt8} {start index offset : Nat}
    {error : DecodeError} (h : decode buffer start = .error (.cutShort index offset))
    (herror : decode (buffer ++ behind) start = .error error) :
    offset ≤ error.offset ∧ ∀ i ∈ error.index?, index ≤ i := by
  rcases decode_eq_error_iff.mp h with
    ⟨hshort, heq⟩ | ⟨count, records, rest, fault, hstands, -, -, heq⟩
  · cases heq
    refine ⟨?_, fun i _ => Nat.zero_le i⟩
    rcases decode_eq_error_iff.mp herror with
      ⟨-, rfl⟩ | ⟨count, records, rest, fault, -, -, -, rfl⟩
    · exact Nat.le_refl start
    · rw [DecodeError.offset_ofFault]
      unfold offsetBehind
      omega
  · have hmore := hstands.append_behind behind
    have hoffset : offset = offsetBehind start records := by
      have hsame := congrArg DecodeError.offset heq
      rwa [DecodeError.offset_ofFault] at hsame
    have hindex : index = indexBehind records := by
      apply DecodeError.eq_of_mem_index?_ofFault
      rw [← heq, DecodeError.index?, Option.mem_some]
    rcases decode_eq_error_iff.mp herror with
      ⟨hshort, -⟩ | ⟨count', records', rest', fault', hstands', -, hfault', rfl⟩
    · have hlength := hmore.le_length
      omega
    -- What was complete before is still there, in front of the record that is at fault now.
    · obtain rfl := hstands'.count_eq hmore
      have hprefix : records <+: records' := hstands'.isPrefix hfault' hmore
      constructor
      · rw [DecodeError.offset_ofFault, hoffset]
        exact offsetBehind_le_of_prefix start hprefix
      · intro i hi
        rw [DecodeError.eq_of_mem_index?_ofFault hi, hindex]
        exact indexBehind_le_of_prefix hprefix

/-! ## 5. Two runs -/

/-- **Decoding is local.** Bytes in front of the start move the offsets of the result, bytes behind
a result that is not cut short change nothing, and bytes behind one that is cut short give a pool
or an error that is found no earlier. -/
theorem decode_local :
    (∀ buffer start front,
      decode (front ++ buffer) (front.length + start)
        = ((decode buffer start).map (movedBy front.length)).mapError
            (DecodeError.movedBy front.length)) ∧
    ∀ buffer start behind,
      ((∀ index offset, decode buffer start ≠ .error (.cutShort index offset)) →
        decode (buffer ++ behind) start = decode buffer start) ∧
      ∀ index offset, decode buffer start = .error (.cutShort index offset) →
        (∃ p, decode (buffer ++ behind) start = .ok p) ∨
          ∃ error, decode (buffer ++ behind) start = .error error ∧
            offset ≤ error.offset ∧ ∀ i ∈ error.index?, index ≤ i := by
  refine ⟨fun buffer start front => decode_append_front front buffer start, ?_⟩
  intro buffer start behind
  refine ⟨fun h => decode_append_behind h behind, ?_⟩
  intro index offset h
  cases hlonger : decode (buffer ++ behind) start with
  | ok p => exact .inl ⟨p, rfl⟩
  | error error => exact .inr ⟨error, rfl, le_of_decode_cutShort h hlonger⟩

/-- An integer that is cut short, behind a text: with three more bytes the tag behind the integer is
at fault, and whatever follows that tag does not change it. -/
theorem decode_local_integer :
    decode [0, 4, 1, 0, 1, 0x41, 3, 0, 0] 0 = .error (.cutShort 2 6) ∧
      (∃ error, decode [0, 4, 1, 0, 1, 0x41, 3, 0, 0, 0, 7, 11] 0 = .error error ∧
        6 ≤ error.offset) ∧
      (∀ behind, decode ([0, 4, 1, 0, 1, 0x41, 3, 0, 0, 0, 7, 11] ++ behind) 0
        = .error (.unknownTag 11 11)) ∧
      ∀ front, decode (front ++ [0, 4, 1, 0, 1, 0x41, 3, 0, 0, 0, 7, 11]) (front.length + 0)
        = .error (.unknownTag 11 (front.length + 11)) := by
  have hcut : decode [0, 4, 1, 0, 1, 0x41, 3, 0, 0] 0 = .error (.cutShort 2 6) := by
    decide +kernel
  have hfault : decode [0, 4, 1, 0, 1, 0x41, 3, 0, 0, 0, 7, 11] 0
      = .error (.unknownTag 11 11) := by
    decide +kernel
  refine ⟨hcut, ?_, fun behind => ?_, fun front => ?_⟩
  · rcases (decode_local.2 _ _ [0, 7, 11]).2 2 6 hcut with ⟨p, hp⟩ | ⟨error, herror, hle, -⟩
    · change decode [0, 4, 1, 0, 1, 0x41, 3, 0, 0, 0, 7, 11] 0 = .ok p at hp
      rw [hfault] at hp
      cases hp
    · exact ⟨error, herror, hle⟩
  · rw [← hfault]
    apply (decode_local.2 _ _ behind).1
    rw [hfault]
    intro index offset h
    cases h
  · rw [decode_local.1, hfault]
    rfl

end Pool

end ClassPool
