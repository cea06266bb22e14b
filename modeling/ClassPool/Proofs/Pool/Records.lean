/-
Records one after the other. Bytes are taken apart into the records that they start with
(`exists_stored`), and there is only one way to do so (`eq_of_append_eq`): a record tells
where it ends, so of two records in front of the same bytes neither is shorter.

Reading follows the records. `readOnto_stored` is what a run of reads does over any number of
them: the index grows by the slots of their entries, the cursor moves by their bytes, and the
records met on the way are those of `Record.along`. Where the records come to an end, the run
either has reached its count or meets bytes that cannot be read, and stops there. Whatever it
reads, a run numbers what it meets (`exists_met`).
-/
import ClassPool.Pool.Decode
import ClassPool.Proofs.Entry.Grammar

set_option autoImplicit false

namespace ClassPool

/-! ## 1. Indices -/

namespace Entry

/-- Every entry starts below the count, where the first has the given index. -/
def StartBelow (count index : Nat) (entries : List Entry) : Prop :=
  ∀ place < entries.length, index + totalSlots (entries.take place) < count

theorem startBelow_nil (count index : Nat) : StartBelow count index [] := by
  intro place hplace
  simp at hplace

theorem startBelow_cons_iff {count index : Nat} {e : Entry} {rest : List Entry} :
    StartBelow count index (e :: rest) ↔
      index < count ∧ StartBelow count (index + e.slots) rest := by
  constructor
  · intro h
    refine ⟨h 0 (by simp), fun place hplace => ?_⟩
    have hnext := h (place + 1) (by simpa using hplace)
    rw [List.take_succ_cons, totalSlots_cons] at hnext
    omega
  · rintro ⟨hfirst, hrest⟩ place hplace
    cases place with
    | zero => simpa using hfirst
    | succ place =>
        have hnext := hrest place (by simpa using hplace)
        rw [List.take_succ_cons, totalSlots_cons]
        omega

/-- Entries whose slots end at the count or before all start below it, as each takes a slot. -/
theorem startBelow_of_le {count index : Nat} {entries : List Entry}
    (h : index + totalSlots entries ≤ count) : StartBelow count index entries := by
  induction entries generalizing index with
  | nil => exact startBelow_nil count index
  | cons e rest ih =>
      have hpos := e.slots_pos
      rw [totalSlots_cons] at h
      exact startBelow_cons_iff.mpr ⟨by omega, ih (by omega)⟩

end Entry

/-! ## 2. Stored entries -/

/-- An entry together with the bytes of one of its records. -/
structure StoredEntry where
  entry : Entry
  bytes : List UInt8
  isRecord : Entry.IsRecord entry bytes

namespace StoredEntry

open Entry

def entriesOf (records : List StoredEntry) : List Entry :=
  records.map entry

/-- The bytes of the records, one behind the other. -/
def bytesOf (records : List StoredEntry) : List UInt8 :=
  records.flatMap bytes

@[simp] theorem entriesOf_nil : entriesOf [] = [] := rfl

@[simp] theorem entriesOf_cons (r : StoredEntry) (records : List StoredEntry) :
    entriesOf (r :: records) = r.entry :: entriesOf records := rfl

@[simp] theorem bytesOf_nil : bytesOf [] = [] := rfl

@[simp] theorem bytesOf_cons (r : StoredEntry) (records : List StoredEntry) :
    bytesOf (r :: records) = r.bytes ++ bytesOf records := by
  simp [bytesOf]

theorem bytesOf_append (front back : List StoredEntry) :
    bytesOf (front ++ back) = bytesOf front ++ bytesOf back :=
  List.flatMap_append

/-! ## 3. One way to take bytes apart -/

theorem eq_of_entry_of_bytes {r r' : StoredEntry} (hentry : r.entry = r'.entry)
    (hbytes : r.bytes = r'.bytes) : r = r' := by
  cases r
  cases r'
  simp_all

/-- Records that end where no further record starts are the longest run of records there is:
every other run in front of the same bytes is a part of it. -/
theorem isPrefix_of_unreadable {more records : List StoredEntry} {rest rest' : List UInt8}
    {fault : RecordFault} (hrest : Unreadable rest fault)
    (heq : bytesOf more ++ rest' = bytesOf records ++ rest) : more <+: records := by
  induction more generalizing records with
  | nil => exact List.nil_prefix
  | cons r more ih =>
      rw [bytesOf_cons, List.append_assoc] at heq
      cases records with
      | nil =>
          -- A further record would stand in front of bytes that start with none.
          rw [bytesOf_nil, List.nil_append] at heq
          rw [← heq] at hrest
          exact absurd hrest (r.isRecord.not_unreadable fault)
      | cons r' records =>
          rw [bytesOf_cons, List.append_assoc] at heq
          obtain ⟨hentry, hbytes, hbehind⟩ := r.isRecord.unique r'.isRecord heq
          rw [eq_of_entry_of_bytes hentry hbytes]
          exact (List.prefix_cons_inj r').mpr (ih hbehind)

/-- Records of the same entries in front of the same bytes are the same records. -/
theorem eq_of_append_eq {records records' : List StoredEntry} {rest rest' : List UInt8}
    (hentries : entriesOf records = entriesOf records')
    (heq : bytesOf records ++ rest = bytesOf records' ++ rest') : records = records' := by
  induction records generalizing records' with
  | nil =>
      cases records' with
      | nil => rfl
      | cons r' records' => simp at hentries
  | cons r records ih =>
      cases records' with
      | nil => simp at hentries
      | cons r' records' =>
          rw [bytesOf_cons, bytesOf_cons, List.append_assoc, List.append_assoc] at heq
          rw [entriesOf_cons, entriesOf_cons, List.cons.injEq] at hentries
          obtain ⟨hentry, hbytes, hbehind⟩ := r.isRecord.unique r'.isRecord heq
          rw [eq_of_entry_of_bytes hentry hbytes, ih hentries.2 hbehind]

/-- Bytes start with records up to a count of slots, or up to bytes that cannot be read. -/
theorem exists_stored (count index : Nat) (bytes : List UInt8) :
    ∃ records rest, bytes = bytesOf records ++ rest ∧
      StartBelow count index (entriesOf records) ∧
      (count ≤ index + totalSlots (entriesOf records) ∨
        index + totalSlots (entriesOf records) < count ∧ ∃ fault, Unreadable rest fault) := by
  -- The induction is on the slots below the count, of which every record takes at least one.
  induction hgap : count - index using Nat.strongRecOn generalizing index bytes with
  | ind gap ih =>
      rcases Nat.lt_or_ge index count with hlt | hge
      · rcases record_or_unreadable bytes with ⟨e, record, behind, hrecord, rfl⟩ | hfault
        · have hpos := e.slots_pos
          obtain ⟨records, rest, rfl, hbelow, hend⟩ :=
            ih (count - (index + e.slots)) (by omega) (index + e.slots) behind rfl
          refine ⟨⟨e, record, hrecord⟩ :: records, rest, ?_, ?_, ?_⟩
          · rw [bytesOf_cons, List.append_assoc]
          · exact startBelow_cons_iff.mpr ⟨hlt, hbelow⟩
          · rwa [entriesOf_cons, totalSlots_cons, ← Nat.add_assoc]
        · exact ⟨[], bytes, rfl, startBelow_nil count index, .inr ⟨hlt, hfault⟩⟩
      · exact ⟨[], bytes, rfl, startBelow_nil count index, .inl hge⟩

end StoredEntry

/-! ## 4. A run of reads -/

namespace Record

open Entry StoredEntry

/-- The records that are met when stored entries are read, the first at an index and an
offset. -/
def along (index offset : Nat) : List StoredEntry → List Record
  | [] => []
  | r :: records =>
    ⟨index, offset, r.entry⟩ :: along (index + r.entry.slots) (offset + r.bytes.length) records

theorem map_entry_along (index offset : Nat) (records : List StoredEntry) :
    (along index offset records).map Record.entry = entriesOf records := by
  induction records generalizing index offset with
  | nil => rfl
  | cons r records ih => rw [along, List.map_cons, ih, entriesOf_cons]

/-- **A run numbers what it meets.** Its own indices are those that numbering gives the entries,
whatever it reads and however it ends. -/
theorem exists_met (count : Nat) (done : List Record) (index : Nat) (c : Cursor) :
    ∃ met, (readOnto count done index c).1 = done.reverse ++ met ∧
      met.map (fun record => (record.index, record.entry)) = number index (met.map entry) := by
  -- Only a record that is read goes on; the other two cases meet nothing more.
  fun_induction readOnto count done index c with
  | case1 done index c hindex e after hread ih =>
      obtain ⟨met, hmet, hnumber⟩ := ih
      refine ⟨⟨index, c.position, e⟩ :: met, ?_, ?_⟩
      · rw [hmet, List.reverse_cons, List.append_assoc, List.singleton_append]
      · rw [List.map_cons, hnumber, List.map_cons, number_cons]
  | case2 done => exact ⟨[], (List.append_nil done.reverse).symm, rfl⟩
  | case3 done => exact ⟨[], (List.append_nil done.reverse).symm, rfl⟩

/-- One read of a record below the count is one step of the run. -/
theorem readOnto_record {count index : Nat} (hindex : index < count) (done : List Record)
    (r : StoredEntry) (position : Nat) (rest : List UInt8) :
    readOnto count done index ⟨position, r.bytes ++ rest⟩
      = readOnto count (⟨index, position, r.entry⟩ :: done) (index + r.entry.slots)
          ⟨position + r.bytes.length, rest⟩ := by
  rw [readOnto, if_pos hindex, read_record r.isRecord]

/-- **A run over records** meets each of them at the index behind the slots and at the offset
behind the bytes of those before it. -/
theorem readOnto_stored {count index : Nat} {records : List StoredEntry}
    (hbelow : StartBelow count index (entriesOf records)) (done : List Record) (position : Nat)
    (rest : List UInt8) :
    readOnto count done index ⟨position, bytesOf records ++ rest⟩
      = readOnto count ((along index position records).reverse ++ done)
          (index + totalSlots (entriesOf records))
          ⟨position + (bytesOf records).length, rest⟩ := by
  induction records generalizing index done position with
  | nil => rfl
  | cons r records ih =>
      rw [entriesOf_cons] at hbelow
      obtain ⟨hindex, hbehind⟩ := startBelow_cons_iff.mp hbelow
      rw [bytesOf_cons, List.append_assoc, readOnto_record hindex, ih hbehind, along,
        List.reverse_cons, List.append_assoc, entriesOf_cons, totalSlots_cons,
        List.length_append, Nat.add_assoc, Nat.add_assoc]
      rfl

/-- A run ends at its count. -/
theorem readOnto_reached {count index : Nat} (h : count ≤ index) (done : List Record)
    (c : Cursor) : readOnto count done index c = (done.reverse, .ok c) := by
  rw [readOnto, if_neg (by omega)]

/-- A run ends at bytes that cannot be read, with their fault at the place it has got to. -/
theorem readOnto_unreadable {count index : Nat} (hindex : index < count) (done : List Record)
    {c : Cursor} {fault : RecordFault} (hfault : Unreadable c.rest fault) :
    readOnto count done index c
      = (done.reverse, .error (.ofFault index c.position fault)) := by
  rw [readOnto, if_pos hindex, read_unreadable hfault]

end Record

end ClassPool
