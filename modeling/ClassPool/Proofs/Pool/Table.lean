/-
The table of a pool. A pool is handed out blank, built from entries, or decoded, from bytes as
they are or behind the header of a class file (`Pool.Reachable`). Whichever way it came about,
its entries fill its count (`Reachable.fills`), and that is all that is needed to know of it.

Numbering gives out indices without a gap: a table starts at one, and each index follows after
the slots of the entry before it. What filling the count adds is where the table ends
(`numbered_of_fills`). The last entry starts below the count, and its slots end there or, if
there are two of them, one behind it, so that a pool may use as many slots as its count says
and not one less (`slotCount_of_fills`). Look-ups follow: an index either belongs to an entry,
or lies outside of the table, or is the second slot of an entry that takes two
(`get?_eq_none_iff_of_fills`).

All of these indices are below a count of two bytes. A map with keys of two bytes into which the
entries are put one after the other therefore holds each of them, and in this order
(`keyed_of_fills`). A decode puts its entries under the indices that its own loop counts up. That
these are the indices of the table is seen at the loop itself (`Record.exists_met`), and so what a
decode puts one after the other is this map (`keyed_of_decode`).
-/
import Mathlib.Data.List.Chain
import ClassPool.Proofs.ClassFile.Parsing
import ClassPool.Proofs.Pool.RoundTrip

set_option autoImplicit false

namespace ClassPool

namespace Entry

/-! ## 1. Numbered entries -/

theorem eq_utf8_of_text?_eq_some {e : Entry} {text : String} (h : e.text? = some text) :
    e = utf8 text := by
  cases e with
  | utf8 stored =>
      rw [text?, Option.some.injEq] at h
      rw [h]
  | _ => cases h

theorem isChain_number (index : Nat) (entries : List Entry) :
    (number index entries).IsChain fun pair after => after.1 = pair.1 + pair.2.slots := by
  induction entries generalizing index with
  | nil => exact .nil
  | cons e rest ih =>
      rw [number_cons, List.isChain_cons]
      refine ⟨?_, ih (index + e.slots)⟩
      intro after hafter
      cases rest with
      | nil => cases hafter
      | cons e' rest =>
          rw [number_cons, List.head?_cons, Option.mem_some] at hafter
          rw [← hafter]

theorem number_append (index : Nat) (front back : List Entry) :
    number index (front ++ back)
      = number index front ++ number (index + totalSlots front) back := by
  induction front generalizing index with
  | nil => rfl
  | cons e front ih =>
      rw [List.cons_append, number_cons, ih, number_cons, totalSlots_cons, List.cons_append,
        Nat.add_assoc]

/-- **A numbered entry has the index behind the slots of all before it.** -/
theorem mem_number_iff {index : Nat} {entries : List Entry} {pair : Nat × Entry} :
    pair ∈ number index entries ↔
      ∃ before after, entries = before ++ pair.2 :: after ∧
        pair.1 = index + totalSlots before := by
  constructor
  · intro h
    rw [Pool.number_eq_mapIdx, List.mem_mapIdx] at h
    obtain ⟨place, hplace, rfl⟩ := h
    refine ⟨entries.take place, entries.drop (place + 1), ?_, rfl⟩
    rw [← List.drop_eq_getElem_cons hplace, List.take_append_drop]
  · rintro ⟨before, after, rfl, hindex⟩
    rw [number_append, number_cons, ← hindex]
    exact List.mem_append_right _ List.mem_cons_self

theorem le_of_mem_number {index : Nat} {entries : List Entry} {pair : Nat × Entry}
    (h : pair ∈ number index entries) : index ≤ pair.1 := by
  obtain ⟨before, after, -, hindex⟩ := mem_number_iff.mp h
  omega

theorem lt_of_mem_number {count index : Nat} {entries : List Entry} {pair : Nat × Entry}
    (hbelow : StartBelow count index entries) (h : pair ∈ number index entries) :
    pair.1 < count := by
  obtain ⟨before, after, rfl, hindex⟩ := mem_number_iff.mp h
  have hlt := hbelow before.length (by rw [List.length_append, List.length_cons]; omega)
  rw [List.take_left] at hlt
  omega

/-- The slots of every entry are among those of all entries. -/
theorem behind_le_of_mem_number {index : Nat} {entries : List Entry} {pair : Nat × Entry}
    (h : pair ∈ number index entries) :
    pair.1 + pair.2.slots ≤ index + totalSlots entries := by
  obtain ⟨before, after, rfl, hindex⟩ := mem_number_iff.mp h
  rw [totalSlots_append, totalSlots_cons]
  omega

theorem behind_getLast?_number {index : Nat} {entries : List Entry} {pair : Nat × Entry}
    (h : (number index entries).getLast? = some pair) :
    pair.1 + pair.2.slots = index + totalSlots entries := by
  induction entries generalizing index with
  | nil => cases h
  | cons e rest ih =>
      rw [totalSlots_cons]
      cases rest with
      | nil =>
          rw [number_cons, number_nil, List.getLast?_singleton, Option.some.injEq] at h
          rw [← h, totalSlots_nil, Nat.add_zero]
      | cons e' rest =>
          rw [number_cons, number_cons, List.getLast?_cons_cons, ← number_cons] at h
          rw [ih h, Nat.add_assoc]

theorem length_number (index : Nat) (entries : List Entry) :
    (number index entries).length = entries.length := by
  rw [← List.length_map Prod.snd, Pool.map_snd_number]

/-- An index is looked up in the one place where it stands. -/
theorem lookup_number_eq_some_iff {index place : Nat} {entries : List Entry} {e : Entry} :
    (number index entries).lookup place = some e ↔ (place, e) ∈ number index entries := by
  induction entries generalizing index with
  | nil => simp
  | cons first rest ih =>
      rw [number_cons, List.lookup_cons, List.mem_cons, Prod.mk.injEq]
      by_cases hplace : place = index
      · -- every index further on is greater
        have hrest : (place, e) ∉ number (index + first.slots) rest := by
          intro hmem
          have hle := le_of_mem_number hmem
          have hpos := first.slots_pos
          dsimp only at hle
          omega
        rw [beq_iff_eq.mpr hplace]
        simp only [Option.some.injEq, hplace, true_and]
        rw [hplace] at hrest
        simp only [hrest, or_false]
        exact eq_comm
      · rw [beq_eq_false_iff_ne.mpr hplace]
        simp only [hplace, false_and, false_or]
        exact ih

/-- **An index without an entry** lies in front of the table or behind it, or is the second slot
of an entry that takes two. -/
theorem lookup_number_eq_none_iff {index place : Nat} {entries : List Entry} :
    (number index entries).lookup place = none ↔
      place < index ∨ index + totalSlots entries ≤ place ∨
        ∃ pair ∈ number index entries, pair.2.takesTwoSlots = true ∧ place = pair.1 + 1 := by
  induction entries generalizing index with
  | nil =>
      rw [number_nil, List.lookup_nil, totalSlots_nil, Nat.add_zero]
      simp only [true_iff, List.not_mem_nil, false_and, exists_false, or_false]
      exact Nat.lt_or_ge place index
  | cons first rest ih =>
      have hpos := first.slots_pos
      rw [number_cons, List.lookup_cons, totalSlots_cons]
      simp only [List.mem_cons, exists_eq_or_imp]
      by_cases hplace : place = index
      · rw [beq_iff_eq.mpr hplace]
        simp only [reduceCtorEq, false_iff, not_or, not_exists, not_and]
        refine ⟨by omega, by omega, fun _ => by omega, ?_⟩
        intro pair hmem _
        have hle := le_of_mem_number hmem
        omega
      · rw [beq_eq_false_iff_ne.mpr hplace]
        -- Between this index and the next there is a slot only if the entry takes two.
        have hgap : place < index + first.slots ↔
            place < index ∨ first.takesTwoSlots = true ∧ place = index + 1 := by
          by_cases htwo : first.takesTwoSlots = true
          · rw [slots_of_takesTwoSlots htwo]
            simp only [htwo, true_and]
            omega
          · rw [slots_of_not_takesTwoSlots htwo]
            simp only [htwo, Bool.false_eq_true, false_and, or_false]
            omega
        dsimp only
        rw [ih, hgap, or_assoc, Nat.add_assoc]
        exact or_congr_right or_left_comm

/-! ## 2. Entries under keys of two bytes -/

/-- Below a count of two bytes no key is lost and none is given twice. -/
theorem map_putAll {count : UInt16} {index : Nat} {entries : List Entry}
    {done : List (UInt16 × Entry)} (hbelow : StartBelow count.toNat index entries)
    (hdone : ∀ pair ∈ done, pair.1.toNat < index) :
    (putAll done index entries).map (fun pair => (pair.1.toNat, pair.2))
      = done.map (fun pair => (pair.1.toNat, pair.2)) ++ number index entries := by
  induction entries generalizing index done with
  | nil => rw [putAll, number_nil, List.append_nil]
  | cons e rest ih =>
      obtain ⟨hindex, hrest⟩ := startBelow_cons_iff.mp hbelow
      have hcount := count.toNat_lt
      have hpos := e.slots_pos
      have hkey : (UInt16.ofNat index).toNat = index :=
        UInt16.toNat_ofNat_of_lt' (show index < 0x10000 by omega)
      have hfresh : ∀ pair ∈ done, pair.1 ≠ UInt16.ofNat index := by
        intro pair hmem heq
        have hlt := hdone pair hmem
        rw [heq, hkey] at hlt
        omega
      have hnext : ∀ pair ∈ done ++ [(UInt16.ofNat index, e)],
          pair.1.toNat < index + e.slots := by
        intro pair hmem
        rcases List.mem_append.mp hmem with hold | hnew
        · have hlt := hdone pair hold
          omega
        · rw [List.mem_singleton.mp hnew, hkey]
          omega
      rw [putAll, put_of_fresh hfresh, ih hrest hnext, List.map_append, List.map_singleton,
        hkey, List.append_assoc, List.singleton_append, number_cons]

end Entry

namespace Pool

open Entry

/-! ## 3. Tables up to a count -/

/-- A table whose indices are given out without a gap up to a count. -/
structure Numbered (count : Nat) (table : List (Nat × Entry)) : Prop where
  first : ∀ pair ∈ table.head?, pair.1 = 1
  /-- Each further index follows after the slots of the entry before it. -/
  next : table.IsChain fun pair after => after.1 = pair.1 + pair.2.slots
  below : ∀ pair ∈ table, pair.1 < count
  nil_iff : table = [] ↔ count ≤ 1
  /-- The slots of the last entry end at the count, or one behind it if there are two. -/
  last : ∀ pair ∈ table.getLast?, pair.1 + pair.2.slots = count ∨
    pair.1 + pair.2.slots = count + 1 ∧ pair.2.takesTwoSlots = true

/-- Whether the last entry takes two slots of which the second is the count itself. -/
def overshoots (p : Pool) : Bool :=
  p.table.getLast?.any fun pair => pair.2.takesTwoSlots && pair.1 + 1 == p.count.toNat

theorem numbered_of_fills {count : Nat} {entries : List Entry} (h : Fills count entries) :
    Numbered count (number 1 entries) where
  first := by
    cases entries with
    | nil => simp
    | cons e rest => simp
  next := isChain_number 1 entries
  below := fun _ hmem => lt_of_mem_number h.starts hmem
  nil_iff := by
    rw [← h.eq_nil_iff]
    cases entries with
    | nil => simp
    | cons e rest => simp
  last := by
    intro pair hpair
    have hbehind := behind_getLast?_number hpair
    have hlt := lt_of_mem_number h.starts (List.mem_of_getLast? hpair)
    have hreaches := h.reaches
    -- The last index is below the count, so only a second slot can be behind it.
    by_cases htwo : pair.2.takesTwoSlots = true
    · rw [slots_of_takesTwoSlots htwo] at hbehind ⊢
      by_cases hcount : pair.1 + 2 = count
      · exact .inl hcount
      · exact .inr ⟨by omega, htwo⟩
    · rw [slots_of_not_takesTwoSlots htwo] at hbehind ⊢
      exact .inl (by omega)

theorem Numbered.ascending {count : Nat} {table : List (Nat × Entry)} (h : Numbered count table) :
    (table.map Prod.fst).Pairwise (· < ·) := by
  have hchain : (table.map Prod.fst).IsChain (· < ·) := by
    rw [List.isChain_map]
    apply h.next.imp
    intro pair after hnext
    have hslots := pair.2.slots_pos
    omega
  exact List.isChain_iff_pairwise.mp hchain

/-- Entries that fill a count of two bytes keep their indices as keys of two bytes. -/
theorem keyed_of_fills {p : Pool} (h : Fills p.count.toNat p.entries) :
    p.keyed.map (fun pair => (pair.1.toNat, pair.2)) = p.table := by
  rw [keyed, map_putAll h.starts (by simp), List.map_nil, List.nil_append, table]

/-- **What a decode puts one after the other**, each entry under the lower two bytes of the index
that its loop has got to, is the map that holds the table. -/
theorem keyed_of_decode {buffer : List UInt8} {start : Nat} {p : Pool}
    (h : decode buffer start = .ok p) :
    (decoding buffer start).records.foldl
        (fun done record => put (UInt16.ofNat record.index) record.entry done) []
      = p.keyed := by
  rw [keyed, putAll_eq_foldl, ← table, ← table_of_decode h, List.foldl_map]

theorem overshoots_iff {p : Pool} {pair : Nat × Entry} (h : p.table.getLast? = some pair) :
    p.overshoots = true ↔ pair.2.takesTwoSlots = true ∧ pair.1 + 1 = p.count.toNat := by
  rw [overshoots, h, Option.any_some, Bool.and_eq_true, beq_iff_eq]

theorem overshoots_of_nil {p : Pool} (h : p.table = []) : p.overshoots = false := by
  rw [overshoots, h, List.getLast?_nil, Option.any_none]

/-- **The slots in use** are one less than the count, unless the last of them is the count. -/
theorem slotCount_of_fills {p : Pool} (h : Fills p.count.toNat p.entries) :
    p.slotCount = if p.overshoots then p.count.toNat else p.count.toNat - 1 := by
  have hnumbered := numbered_of_fills h
  rw [← table] at hnumbered
  cases hlast : p.table.getLast? with
  | none =>
      have hnil := List.getLast?_eq_none_iff.mp hlast
      have hcount := hnumbered.nil_iff.mp hnil
      have hentries : p.entries = [] := h.eq_nil_iff.mpr hcount
      rw [overshoots_of_nil hnil, slotCount, hentries, totalSlots_nil]
      simp only [Bool.false_eq_true, if_false]
      omega
  | some pair =>
      have hbehind := behind_getLast?_number (by rw [← table]; exact hlast)
      rw [← slotCount] at hbehind
      rcases hnumbered.last pair hlast with hend | ⟨hend, htwo⟩
      · have hover : ¬ p.overshoots = true := by
          rw [overshoots_iff hlast]
          rintro ⟨htwo, hcount⟩
          rw [slots_of_takesTwoSlots htwo] at hend
          omega
        rw [if_neg hover]
        omega
      · rw [slots_of_takesTwoSlots htwo] at hend hbehind
        have hover : p.overshoots = true := (overshoots_iff hlast).mpr ⟨htwo, by omega⟩
        rw [if_pos hover]
        omega

/-! ## 4. Look-ups -/

theorem get?_eq_some_iff {p : Pool} {index : Nat} {e : Entry} :
    p.get? index = some e ↔ (index, e) ∈ p.table := by
  rw [get?, table, lookup_number_eq_some_iff]

/-- **Nothing is found** at zero, from the count on, and in second slots. -/
theorem get?_eq_none_iff_of_fills {p : Pool} (h : Fills p.count.toNat p.entries) {index : Nat} :
    p.get? index = none ↔
      index = 0 ∨ p.count.toNat ≤ index ∨
        ∃ pair ∈ p.table, pair.2.takesTwoSlots = true ∧ index = pair.1 + 1 := by
  have hreaches := h.reaches
  constructor
  · intro hnone
    rw [get?, table, lookup_number_eq_none_iff] at hnone
    rcases hnone with hfront | hbehind | hsecond
    · exact .inl (by omega)
    · exact .inr (.inl (by omega))
    · exact .inr (.inr hsecond)
  · rintro (hzero | hcount | hsecond)
    · rw [get?, table, lookup_number_eq_none_iff]
      exact .inl (by omega)
    -- The slots may reach past the count, but no entry starts there.
    · rw [Option.eq_none_iff_forall_ne_some]
      intro e he
      have hlt := lt_of_mem_number h.starts (get?_eq_some_iff.mp he)
      dsimp only at hlt
      omega
    · rw [get?, table, lookup_number_eq_none_iff]
      exact .inr (.inr hsecond)

/-- An index of the table is none of those at which nothing is found. -/
theorem slot_of_mem_table {p : Pool} (h : Fills p.count.toNat p.entries) {pair : Nat × Entry}
    (hmem : pair ∈ p.table) :
    0 < pair.1 ∧ pair.1 < p.count.toNat ∧
      ∀ wide ∈ p.table, wide.2.takesTwoSlots = true → pair.1 ≠ wide.1 + 1 := by
  have hsome : ¬ p.get? pair.1 = none := by
    rw [get?_eq_some_iff.mpr hmem]
    exact Option.some_ne_none _
  rw [get?_eq_none_iff_of_fills h] at hsome
  refine ⟨by omega, by omega, ?_⟩
  intro wide hwide htwo heq
  exact hsome (.inr (.inr ⟨wide, hwide, htwo, heq⟩))

theorem getText?_eq_some_iff {p : Pool} {index : Nat} {text : String} :
    p.getText? index = some text ↔ p.get? index = some (utf8 text) := by
  rw [getText?, Option.bind_eq_some_iff]
  constructor
  · rintro ⟨e, he, htext⟩
    rw [he, eq_utf8_of_text?_eq_some htext]
  · intro he
    exact ⟨utf8 text, he, rfl⟩

/-! ## 5. Every pool there is -/

/-- The pools that are handed out. A pool that is rebuilt is built from the entries of another
one, a pool that is decoded again is decoded from what was written for another one, and a copy is
the pool itself, so these need no cases of their own. -/
inductive Reachable : Pool → Prop where
  | blank : Reachable blank
  | built {entries : List Entry} {p : Pool} (h : build entries = .ok p) : Reachable p
  | decoded {buffer : List UInt8} {start : Nat} {p : Pool} (h : decode buffer start = .ok p) :
      Reachable p
  | parsed {bytes : List UInt8} {options : Options} {c : ClassFile}
      (h : (ClassFile.parse bytes options).value = .ok c) : Reachable c.constantPool

theorem fills_of_decode {buffer : List UInt8} {start : Nat} {p : Pool}
    (h : decode buffer start = .ok p) : Fills p.count.toNat p.entries := by
  obtain ⟨records, rest, -, hfills, hentries, -⟩ := decode_eq_ok_iff.mp h
  rwa [hentries]

theorem Reachable.fills {p : Pool} (h : Reachable p) : Fills p.count.toNat p.entries := by
  cases h with
  | blank => exact ⟨startBelow_nil _ _, Nat.zero_le _⟩
  | built h => exact fills_of_build h
  | decoded h => exact fills_of_decode h
  | parsed h =>
      obtain ⟨_, _, _, _, _, hdecode⟩ := ClassFile.value_parse_eq_ok_iff.mp h
      exact fills_of_decode hdecode

/-- **The table of a pool is numbered up to its count**, with indices that two bytes hold, and
look-ups and sizes are what the table says. -/
theorem Reachable.numbered {p : Pool} (h : Reachable p) :
    Numbered p.count.toNat p.table ∧
      p.keyed.map (fun pair => (pair.1.toNat, pair.2)) = p.table ∧
      (∀ index e, p.get? index = some e ↔ (index, e) ∈ p.table) ∧
      (∀ index, p.get? index = none ↔
        index = 0 ∨ p.count.toNat ≤ index ∨
          ∃ pair ∈ p.table, pair.2.takesTwoSlots = true ∧ index = pair.1 + 1) ∧
      (∀ index text, p.getText? index = some text ↔ p.get? index = some (.utf8 text)) ∧
      p.size = p.table.length ∧
      (p.isEmpty = true ↔ p.table = []) ∧
      p.slotCount = if p.overshoots then p.count.toNat else p.count.toNat - 1 := by
  have hfills := h.fills
  have hnumbered := numbered_of_fills hfills
  refine ⟨hnumbered, keyed_of_fills hfills, fun _ _ => get?_eq_some_iff,
    fun _ => get?_eq_none_iff_of_fills hfills, fun _ _ => getText?_eq_some_iff, ?_, ?_,
    slotCount_of_fills hfills⟩
  · rw [size, table, length_number]
  · rw [isEmpty, List.isEmpty_iff, hfills.eq_nil_iff, table, hnumbered.nil_iff]

/-- A long, and behind its second slot a double in the last slot below the count. Neither second
slot belongs to an entry, and the double uses the slot of the count. -/
theorem numbered_of_wide_last :
    ∃ p, decode [0, 4, 5, 0, 0, 0, 0, 0, 0, 0, 9, 6, 0x7F, 0xF8, 0, 0, 0, 0, 0, 1] 0 = .ok p ∧
      p.table = [(1, long 9), (3, double 0x7FF8000000000001)] ∧
      p.get? 2 = none ∧ p.get? 3 = some (double 0x7FF8000000000001) ∧ p.get? 4 = none ∧
      p.slotCount = p.count.toNat := by
  have hdecode : decode
      [0, 4, 5, 0, 0, 0, 0, 0, 0, 0, 9, 6, 0x7F, 0xF8, 0, 0, 0, 0, 0, 1] 0
      = .ok ⟨4, [long 9, double 0x7FF8000000000001], 20⟩ := by
    decide +kernel
  obtain ⟨-, -, hsome, hnone, -, -, -, hslots⟩ := (Reachable.decoded hdecode).numbered
  refine ⟨_, hdecode, rfl, (hnone 2).mpr ?_, (hsome 3 _).mpr (by decide), (hnone 4).mpr ?_, hslots⟩
  · exact .inr (.inr ⟨(1, long 9), by decide, rfl, rfl⟩)
  · exact .inr (.inl (by decide))

end Pool

end ClassPool
