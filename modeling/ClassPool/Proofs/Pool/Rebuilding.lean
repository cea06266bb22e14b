/-
Building from what was decoded. Decoding and building give out the same indices but stop for
different reasons: decoding stops once the count is reached, wherever the last entry ends, and
building stops at an entry whose slots do not end at a count that two bytes hold
(`build_eq_error_iff`).

A decoded entry starts below a count of two bytes, so among the entries of a decoded pool only
one can be refused, a long or a double at index 65534, and it is refused
(`build_decoded_eq_error_iff`). From the entries of any other decoded pool a pool is built that
has the same table. Its count is the one that was declared, except that it is one where nothing
was declared and one more where the last entry reached past the declared count.
-/
import ClassPool.Proofs.Pool.Building

set_option autoImplicit false

namespace ClassPool

namespace Pool

open Entry

/-! ## 1. Entries that were decoded -/

/-- The first decoded entry that does not fit starts below the count, so there is only one place
for it. -/
theorem last_of_build_eq_error {p : Pool} (h : Fills p.count.toNat p.entries)
    {fault : SlotOverflow} (hbuild : build p.entries = .error fault) :
    p.count = 65535 ∧ (∃ e, p.get? 65534 = some e ∧ e.takesTwoSlots = true) ∧
      fault = ⟨65535⟩ := by
  obtain ⟨before, e, after, hentries, hbefore, hbeyond, rfl⟩ := build_eq_error_iff.mp hbuild
  have hmem : (1 + totalSlots before, e) ∈ p.table :=
    mem_number_iff.mpr ⟨before, after, hentries, rfl⟩
  have hbelow := lt_of_mem_number h.starts hmem
  have hlt := p.count.toNat_lt
  have hslots := e.slots_le
  dsimp only at hbelow
  have htwo : e.takesTwoSlots = true := by
    by_contra hone
    rw [slots_of_not_takesTwoSlots hone] at hbeyond
    omega
  rw [slots_of_takesTwoSlots htwo] at hbeyond ⊢
  have hplace : totalSlots before = 65533 := by omega
  rw [hplace] at hmem hbelow ⊢
  exact ⟨UInt16.toNat_inj.mp (show p.count.toNat = 65535 by omega),
    ⟨e, get?_eq_some_iff.mpr hmem, htwo⟩, rfl⟩

/-- **Of decoded entries one is refused exactly if it is a long or a double at index 65534**, and
then all slots that there are would have been needed and one more. -/
theorem build_decoded_eq_error_iff {p : Pool} (h : Fills p.count.toNat p.entries)
    {fault : SlotOverflow} :
    build p.entries = .error fault ↔
      p.count = 65535 ∧ (∃ e, p.get? 65534 = some e ∧ e.takesTwoSlots = true) ∧
        fault = ⟨65535⟩ := by
  constructor
  · exact last_of_build_eq_error h
  · rintro ⟨-, ⟨e, he, htwo⟩, rfl⟩
    have hend := behind_le_of_mem_number (get?_eq_some_iff.mp he)
    rw [slots_of_takesTwoSlots htwo] at hend
    cases hbuild : build p.entries with
    | ok q =>
        have hfits := (exists_build_iff p.entries).mp ⟨q, hbuild⟩
        dsimp only at hend
        omega
    | error fault =>
        obtain ⟨-, -, rfl⟩ := last_of_build_eq_error h hbuild
        rfl

/-- The count that fits the slots of a decoded pool. -/
theorem slotCount_add_one_of_fills {p : Pool} (h : Fills p.count.toNat p.entries) :
    p.slotCount + 1 = if p.count = 0 then 1
      else if p.overshoots then p.count.toNat + 1 else p.count.toNat := by
  rw [slotCount_of_fills h]
  by_cases hzero : p.count = 0
  · have hcount : p.count.toNat = 0 := by rw [hzero]; rfl
    have hnil : p.table = [] := by
      rw [table]
      exact (numbered_of_fills h).nil_iff.mpr (by omega)
    rw [overshoots_of_nil hnil, if_pos hzero, hcount]
    rfl
  · have hcount : p.count.toNat ≠ 0 := fun heq => hzero (UInt16.toNat_inj.mp heq)
    rw [if_neg hzero]
    by_cases hover : p.overshoots = true
    · rw [if_pos hover, if_pos hover]
    · rw [if_neg hover, if_neg hover]
      omega

/-- **A pool is rebuilt from decoded entries** exactly when they use no more slots than a count
can declare. It is refused only for the last slot there is, and otherwise has the table that was
decoded, a count that fits its slots and the end of its own encoding, and rebuilding it changes
nothing. -/
theorem build_decoded {buffer : List UInt8} {start : Nat} {p : Pool}
    (h : decode buffer start = .ok p) :
    ((∃ q, build p.entries = .ok q) ↔ p.slotCount ≤ 65534) ∧
      (∀ fault, build p.entries = .error fault ↔
        p.count = 65535 ∧ (∃ e, p.get? 65534 = some e ∧ e.takesTwoSlots = true) ∧
          fault = ⟨65535⟩) ∧
      ∀ q, build p.entries = .ok q →
        q.table = p.table ∧ q.count.toNat = p.slotCount + 1 ∧
          (q.count.toNat = if p.count = 0 then 1
            else if p.overshoots then p.count.toNat + 1 else p.count.toNat) ∧
          q.stop = 2 + (p.entries.map Entry.encodedLength).sum ∧
          build q.entries = .ok q := by
  have hfills := fills_of_decode h
  refine ⟨exists_build_iff p.entries, fun _ => build_decoded_eq_error_iff hfills, ?_⟩
  intro q hq
  obtain ⟨hcount, hentries, hstop⟩ := build_eq_ok_iff.mp hq
  have hslots : q.count.toNat = p.slotCount + 1 := by rw [hcount, slotCount, Nat.add_comm]
  refine ⟨by rw [table, table, hentries], hslots, ?_, ?_, by rw [hentries, hq]⟩
  · rw [hslots, slotCount_add_one_of_fills hfills]
  · rw [hstop, encodedLength_eq_sum]

/-! ## 2. The last slot -/

/-- A long can be decoded from the last slot that a count declares. -/
theorem exists_decoded_long_at_65534 :
    ∃ buffer p, decode buffer 0 = .ok p ∧ p.count = 65535 ∧ p.get? 65534 = some (long 0) := by
  let p : Pool := ⟨65535, List.replicate 65533 (integer 0) ++ [long 0], 0⟩
  have hslots := totalSlots_replicate_integer 65533 0
  have hfills : Fills p.count.toNat p.entries := by
    refine ⟨?_, ?_⟩
    · intro place hplace
      rw [List.length_append, List.length_replicate, List.length_singleton] at hplace
      rw [List.take_append_of_le_length (by rw [List.length_replicate]; omega),
        List.take_replicate, totalSlots_replicate_integer]
      show 1 + min place 65533 < 65535
      omega
    · rw [totalSlots_append, hslots]
      decide
  have hfits : AllFit p.entries := by
    intro text hmem
    rcases List.mem_append.mp hmem with hinteger | hlong
    · cases List.eq_of_mem_replicate hinteger
    · cases List.mem_singleton.mp hlong
  have hdecode := decode_bytes hfills hfits [] []
  rw [List.append_nil, List.nil_append, List.length_nil] at hdecode
  refine ⟨p.bytes, _, hdecode, rfl, get?_eq_some_iff.mpr (mem_number_iff.mpr ?_)⟩
  exact ⟨List.replicate 65533 (integer 0), [], rfl, by rw [hslots]⟩

/-- A double that reaches past its count is rebuilt with a count that covers it, unless there is
no such count. -/
theorem build_decoded_past_the_count :
    (∃ p q, decode [0, 2, 6, 0x7F, 0xF8, 0, 0, 0, 0, 0, 1] 0 = .ok p ∧
      build p.entries = .ok q ∧ q.table = [(1, double 0x7FF8000000000001)] ∧ p.count = 2 ∧
      q.count = 3) ∧
    ∃ buffer p, decode buffer 0 = .ok p ∧ build p.entries = .error ⟨65535⟩ := by
  constructor
  · have hdecode : decode [0, 2, 6, 0x7F, 0xF8, 0, 0, 0, 0, 0, 1] 0
        = .ok ⟨2, [double 0x7FF8000000000001], 11⟩ := by
      decide +kernel
    obtain ⟨hbuild, -, hq⟩ := build_decoded hdecode
    obtain ⟨q, hbuild⟩ := hbuild.mpr (by decide)
    obtain ⟨htable, hcount, -⟩ := hq q hbuild
    exact ⟨_, q, hdecode, hbuild, htable, rfl, UInt16.toNat_inj.mp hcount⟩
  · obtain ⟨buffer, p, hdecode, hcount, hlong⟩ := exists_decoded_long_at_65534
    obtain ⟨-, herror, -⟩ := build_decoded hdecode
    exact ⟨buffer, p, hdecode, (herror _).mpr ⟨hcount, ⟨_, hlong, rfl⟩, rfl⟩⟩

end Pool

end ClassPool
