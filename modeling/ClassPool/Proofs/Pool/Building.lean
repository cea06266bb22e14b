/-
Building a pool. Each entry gets the index behind the slots of all before it, and there is room for
it as long as the index behind its own slots is a count that two bytes hold. So a list of entries
is built exactly if its slots are no more than 65534 (`exists_build_iff`), and otherwise the first
entry whose slots go beyond that is refused with the number of slots up to it
(`build_eq_error_iff`).

An entry takes at most two slots, which leaves two numbers to report. The slots up to the refused
entry are 65536 only if a long or a double came when every slot was in use, and 65535 in all other
cases (`slots_of_beyond`).
-/
import ClassPool.Proofs.Pool.Table

set_option autoImplicit false

namespace ClassPool

namespace Entry

/-! ## 1. Slots along a row of entries -/

/-- Where the slots of all entries go beyond a limit, there is a first entry whose slots do. -/
theorem exists_first_beyond {limit index : Nat} {entries : List Entry} (hindex : index ≤ limit)
    (h : limit < index + totalSlots entries) :
    ∃ before e after, entries = before ++ e :: after ∧ index + totalSlots before ≤ limit ∧
      limit < index + totalSlots before + e.slots := by
  induction entries generalizing index with
  | nil =>
      rw [totalSlots_nil] at h
      omega
  | cons e rest ih =>
      by_cases hfirst : index + e.slots ≤ limit
      · rw [totalSlots_cons, ← Nat.add_assoc] at h
        obtain ⟨before, e', after, rfl, hbefore, hbeyond⟩ := ih hfirst h
        refine ⟨e :: before, e', after, rfl, ?_, ?_⟩
        · rw [totalSlots_cons, ← Nat.add_assoc]
          exact hbefore
        · rw [totalSlots_cons, ← Nat.add_assoc]
          exact hbeyond
      · refine ⟨[], e, rest, rfl, ?_, ?_⟩
        · rw [totalSlots_nil]
          exact hindex
        · rw [totalSlots_nil]
          omega

theorem totalSlots_take_mono {first second : Nat} (h : first ≤ second) (entries : List Entry) :
    totalSlots (entries.take first) ≤ totalSlots (entries.take second) := by
  obtain ⟨between, hbetween⟩ := List.take_prefix_take_left (l := entries) h
  rw [← hbetween, totalSlots_append]
  exact Nat.le_add_right _ _

theorem totalSlots_take_length_succ (before : List Entry) (e : Entry) (after : List Entry) :
    totalSlots ((before ++ e :: after).take (before.length + 1))
      = totalSlots before + e.slots := by
  rw [List.take_length_add_append, totalSlots_append, List.take_succ_cons, List.take_zero,
    totalSlots_cons, totalSlots_nil, Nat.add_zero]

theorem totalSlots_replicate_integer (n : Nat) (value : Int32) :
    totalSlots (List.replicate n (integer value)) = n := by
  induction n with
  | zero => rfl
  | succ n ih =>
      rw [List.replicate_succ, totalSlots_cons, ih]
      exact Nat.add_comm 1 n

/-- An entry that goes beyond 65534 slots ends at 65535, or at 65536 if it takes two slots and none
was left. -/
theorem slots_of_beyond {slots : Nat} {e : Entry} (hslots : slots ≤ 65534)
    (hbeyond : 65534 < slots + e.slots) :
    slots + e.slots = if slots = 65534 ∧ e.takesTwoSlots = true then 65536 else 65535 := by
  by_cases htwo : e.takesTwoSlots = true
  · rw [slots_of_takesTwoSlots htwo] at hbeyond ⊢
    by_cases hfull : slots = 65534
    · rw [if_pos ⟨hfull, htwo⟩, hfull]
    · rw [if_neg fun h => hfull h.1]
      omega
  · rw [slots_of_not_takesTwoSlots htwo] at hbeyond ⊢
    rw [if_neg fun h => htwo h.2]
    omega

end Entry

namespace Pool

open Entry

/-! ## 2. What cannot be built -/

theorem build_of_beyond {before : List Entry} {e : Entry} (after : List Entry)
    (hbefore : totalSlots before ≤ 65534) (hbeyond : 65534 < totalSlots before + e.slots) :
    build (before ++ e :: after) = .error ⟨totalSlots before + e.slots⟩ := by
  have hindex : 1 + totalSlots before ≤ 0xFFFF := by omega
  have hfull : ¬ 1 + totalSlots before + e.slots ≤ 0xFFFF := by omega
  have hslots : 1 + totalSlots before + e.slots - 1 = totalSlots before + e.slots := by omega
  rw [build, indexAfter_append _ hindex, indexAfter, if_neg hfull, hslots]

/-- **No pool is built exactly where some entry is the first that does not fit**, and the error
names the slots that are needed up to it. -/
theorem build_eq_error_iff {entries : List Entry} {fault : SlotOverflow} :
    build entries = .error fault ↔
      ∃ before e after, entries = before ++ e :: after ∧ totalSlots before ≤ 65534 ∧
        65534 < totalSlots before + e.slots ∧ fault = ⟨totalSlots before + e.slots⟩ := by
  constructor
  · intro h
    by_cases hfits : 1 + totalSlots entries ≤ 0xFFFF
    · have hindex := (indexAfter_eq_ok_iff (by decide) entries).mpr ⟨rfl, hfits⟩
      rw [build, hindex] at h
      cases h
    · obtain ⟨before, e, after, rfl, hbefore, hbeyond⟩ :=
        exists_first_beyond (show 1 ≤ 0xFFFF by decide) (Nat.lt_of_not_le hfits)
      rw [build_of_beyond after (by omega) (by omega), Except.error.injEq] at h
      exact ⟨before, e, after, rfl, by omega, by omega, h.symm⟩
  · rintro ⟨before, e, after, rfl, hbefore, hbeyond, rfl⟩
    exact build_of_beyond after hbefore hbeyond

theorem exists_build_iff (entries : List Entry) :
    (∃ p, build entries = .ok p) ↔ totalSlots entries ≤ 65534 := by
  constructor
  · rintro ⟨p, hp⟩
    obtain ⟨hcount, -, -⟩ := build_eq_ok_iff.mp hp
    have hlt := p.count.toNat_lt
    omega
  · intro h
    refine ⟨⟨UInt16.ofNat (1 + totalSlots entries), entries, encodedLength entries⟩, ?_⟩
    rw [build_eq_ok_iff]
    exact ⟨UInt16.toNat_ofNat_of_lt' (show _ < 0x10000 by omega), rfl, rfl⟩

/-! ## 3. What is built -/

theorem getElem?_indexed {entries : List Entry} {place : Nat} {e : Entry}
    (h : entries[place]? = some e) :
    (indexed entries)[place]? = some (1 + totalSlots (entries.take place), e) := by
  rw [indexed, List.getElem?_mapIdx, h, Option.map_some]

/-- A built entry stands behind the slots of all before it, and is found there. -/
theorem getElem?_table_of_build {entries : List Entry} {p : Pool} (h : build entries = .ok p)
    {place : Nat} {e : Entry} (he : entries[place]? = some e) :
    p.table[place]? = some (1 + totalSlots (entries.take place), e) ∧
      p.get? (1 + totalSlots (entries.take place)) = some e := by
  obtain ⟨-, rfl, -⟩ := build_eq_ok_iff.mp h
  have hplace : p.table[place]? = some (1 + totalSlots (p.entries.take place), e) := by
    rw [table_eq_indexed, getElem?_indexed he]
  exact ⟨hplace, get?_eq_some_iff.mpr (List.mem_of_getElem? hplace)⟩

/-- **Building accepts exactly what fits, and never wraps.** From entries with at most 65534 slots
a pool is built in which each entry has the index behind the slots of all before it, also as a key
of two bytes. Otherwise there is a first entry whose slots go beyond 65534, and the slots up to it
are reported, 65536 if it is a long or a double that found all slots in use and 65535 if not. -/
theorem build_exact (entries : List Entry) :
    ((∃ p, build entries = .ok p) ↔ totalSlots entries ≤ 65534) ∧
    (∀ p, build entries = .ok p →
      p.count.toNat = totalSlots entries + 1 ∧
      p.size = entries.length ∧
      (∀ place e, entries[place]? = some e →
        p.table[place]? = some (1 + totalSlots (entries.take place), e) ∧
          p.get? (1 + totalSlots (entries.take place)) = some e) ∧
      p.keyed.map (fun pair => (pair.1.toNat, pair.2)) = p.table ∧
      p.stop = 2 + (entries.map Entry.encodedLength).sum) ∧
    (65534 < totalSlots entries →
      ∃ place e, entries[place]? = some e ∧
        (∀ fewer ≤ place, totalSlots (entries.take fewer) ≤ 65534) ∧
        65534 < totalSlots (entries.take (place + 1)) ∧
        build entries = .error ⟨totalSlots (entries.take (place + 1))⟩ ∧
        totalSlots (entries.take (place + 1)) =
          if totalSlots (entries.take place) = 65534 ∧ e.takesTwoSlots = true then 65536
          else 65535) := by
  refine ⟨exists_build_iff entries, ?_, ?_⟩
  · intro p hp
    obtain ⟨hcount, rfl, hstop⟩ := build_eq_ok_iff.mp hp
    refine ⟨by rw [hcount, Nat.add_comm], rfl, fun _ _ => getElem?_table_of_build hp,
      keyed_of_fills (fills_of_build hp), ?_⟩
    rw [hstop, encodedLength_eq_sum]
  · intro hbeyond
    obtain ⟨before, e, after, rfl, hbefore, hfirst⟩ :=
      exists_first_beyond (Nat.zero_le 65534) (by rwa [Nat.zero_add])
    rw [Nat.zero_add] at hbefore hfirst
    have htake : (before ++ e :: after).take before.length = before := List.take_left
    refine ⟨before.length, e, by simp, ?_, ?_⟩
    · -- fewer entries take no more slots
      intro fewer hfewer
      have hmono := totalSlots_take_mono hfewer (before ++ e :: after)
      rw [htake] at hmono
      exact Nat.le_trans hmono hbefore
    · rw [totalSlots_take_length_succ, htake]
      exact ⟨hfirst, build_of_beyond after hbefore hfirst, slots_of_beyond hbefore hfirst⟩

/-- All 65534 slots can be used by entries that take one each. A long behind them is refused, and
would have needed two more. -/
theorem build_exact_full :
    (∃ p, build (List.replicate 65534 (integer 0)) = .ok p ∧ p.count.toNat = 65535) ∧
      build (List.replicate 65534 (integer 0) ++ [long 0]) = .error ⟨65536⟩ := by
  have hfull := totalSlots_replicate_integer 65534 0
  constructor
  · obtain ⟨hbuild, hp, -⟩ := build_exact (List.replicate 65534 (integer 0))
    obtain ⟨p, h⟩ := hbuild.mpr (by rw [hfull])
    exact ⟨p, h, by rw [(hp p h).1, hfull]⟩
  · obtain ⟨-, -, herror⟩ := build_exact (List.replicate 65534 (integer 0) ++ [long 0])
    have htotal : totalSlots (List.replicate 65534 (integer 0) ++ [long 0]) = 65536 := by
      rw [totalSlots_append, hfull]
      rfl
    obtain ⟨place, e, he, hfewer, hbeyond, hreport, hslots⟩ := herror (by rw [htotal]; decide)
    -- The integers fit, so it is the long that is refused.
    have hplace : 65534 < place + 1 := by
      apply Nat.lt_of_not_le
      intro hle
      rw [List.take_append_of_le_length (by rw [List.length_replicate]; exact hle),
        List.take_replicate, totalSlots_replicate_integer] at hbeyond
      omega
    have hall : (List.replicate 65534 (integer 0) ++ [long 0]).length ≤ place + 1 := by
      rw [List.length_append, List.length_replicate]
      exact hplace
    rw [hreport, List.take_of_length_le hall, htotal]

end Pool

end ClassPool
