/-
Building a pool from entries. Indices are given out in order; the count is one more than the
slots that were given out and has to fit in two bytes, so at most 65534 slots fit. The first
entry that does not fit stops the building, and the error names the slots needed up to and
including that entry. A built pool ends where its encoding would end if it started at zero;
texts that are too long to be written are not refused here.

So building only counts, and `build_eq_ok_iff` is all that is needed to know of a pool that was
built: its count is one more than the slots of its entries, which are the given ones.
-/
import ClassPool.Pool.Encode

set_option autoImplicit false

namespace ClassPool

/-- Entries that need more slots than a pool can declare. -/
structure SlotOverflow where
  /-- The slots needed by the entries up to the first that does not fit. -/
  slots : Nat
  deriving Repr, DecidableEq

def SlotOverflow.message (fault : SlotOverflow) : String :=
  "Constant pool needs " ++ Numeral.decimal fault.slots ++ " slots, at most 65534 fit"

namespace Pool

open Entry

/-- The index behind the given entries, of which the first has the given index. -/
def indexAfter (index : Nat) : List Entry → Except SlotOverflow Nat
  | [] => .ok index
  | e :: rest =>
    if index + e.slots ≤ 0xFFFF then indexAfter (index + e.slots) rest
    else .error ⟨index + e.slots - 1⟩

/-- The index behind entries is behind all their slots, as long as it can be a count. -/
theorem indexAfter_eq_ok_iff {index next : Nat} (hindex : index ≤ 0xFFFF)
    (entries : List Entry) :
    indexAfter index entries = .ok next ↔
      next = index + totalSlots entries ∧ index + totalSlots entries ≤ 0xFFFF := by
  induction entries generalizing index with
  | nil =>
      rw [indexAfter, Except.ok.injEq, totalSlots_nil, Nat.add_zero]
      exact ⟨fun h => ⟨h.symm, hindex⟩, fun h => h.1.symm⟩
  | cons e rest ih =>
      rw [indexAfter, totalSlots_cons, ← Nat.add_assoc]
      by_cases hfits : index + e.slots ≤ 0xFFFF
      · rw [if_pos hfits]
        exact ih hfits
      · rw [if_neg hfits]
        constructor
        · intro h
          cases h
        · rintro ⟨-, hcount⟩
          omega

theorem indexAfter_append {index : Nat} {before : List Entry} (after : List Entry)
    (h : index + totalSlots before ≤ 0xFFFF) :
    indexAfter index (before ++ after) = indexAfter (index + totalSlots before) after := by
  induction before generalizing index with
  | nil => rfl
  | cons e before ih =>
      rw [totalSlots_cons, ← Nat.add_assoc] at h
      have hfirst : index + e.slots ≤ 0xFFFF := by omega
      rw [List.cons_append, indexAfter, if_pos hfirst, ih h, totalSlots_cons, Nat.add_assoc]

/-- The pool of the given entries, as it would be decoded from its own encoding. -/
def build (entries : List Entry) : Except SlotOverflow Pool :=
  match indexAfter 1 entries with
  | .ok next => .ok ⟨UInt16.ofNat next, entries, encodedLength entries⟩
  | .error fault => .error fault

/-- **A pool is built exactly from entries that leave the index behind them a count.** -/
theorem build_eq_ok_iff {entries : List Entry} {p : Pool} :
    build entries = .ok p ↔
      p.count.toNat = 1 + totalSlots entries ∧ p.entries = entries ∧
        p.stop = encodedLength entries := by
  constructor
  · intro h
    rw [build] at h
    split at h
    · next next hindex =>
        obtain ⟨rfl, hcount⟩ := (indexAfter_eq_ok_iff (by decide) entries).mp hindex
        cases h
        exact ⟨UInt16.toNat_ofNat_of_lt' (show _ < 0x10000 by omega), rfl, rfl⟩
    · cases h
  · rintro ⟨hcount, rfl, hstop⟩
    have hlt := p.count.toNat_lt
    have hindex : indexAfter 1 p.entries = .ok (1 + totalSlots p.entries) :=
      (indexAfter_eq_ok_iff (by decide) p.entries).mpr ⟨rfl, by omega⟩
    rw [build, hindex, ← hcount, ← hstop]
    simp only [UInt16.ofNat_toNat]

end Pool

end ClassPool
