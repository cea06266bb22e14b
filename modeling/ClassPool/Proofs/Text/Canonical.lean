/-
Canonical modified UTF-8. Well-formed bytes come apart into sequences in one way only, because no
sequence is the beginning of another one (`Splits.unique`). The form of each sequence may be longer
than its unit needs, and a zero may stand as a single byte. Writing does neither: of the forms of
a unit it takes the one that `Canonical` describes (`Sequence.eq_encodeUnit_iff`), so a text is
written as the bytes that it was read from exactly if these were canonical throughout
(`encode_eq_iff_canonical`).

Compared with standard UTF-8, a zero takes one byte more and a supplementary character, whose two
surrogates take three bytes each, takes two more. All other characters are written as in standard
UTF-8, which gives the length of what is written (`length_encode`).
-/
import ClassPool.Proofs.Text.Forms
import Mathlib.Logic.ExistsUnique

set_option autoImplicit false

namespace ClassPool.Text

namespace Modified

/-! ## 1. Taking bytes apart -/

/-- Bytes taken apart into sequences, each with the unit that it stores. -/
structure Splits (bytes : List UInt8) (pieces : List (UInt16 × List UInt8)) : Prop where
  sequence : ∀ piece ∈ pieces, Sequence piece.1 piece.2
  whole : pieces.flatMap Prod.snd = bytes

theorem Splits.nil : Splits [] [] := by
  refine ⟨?_, rfl⟩
  simp

theorem Splits.cons {unit : UInt16} {bytes rest : List UInt8}
    {pieces : List (UInt16 × List UInt8)} (hseq : Sequence unit bytes) (h : Splits rest pieces) :
    Splits (bytes ++ rest) ((unit, bytes) :: pieces) := by
  obtain ⟨hsequence, rfl⟩ := h
  refine ⟨?_, List.flatMap_cons⟩
  rw [List.forall_mem_cons]
  exact ⟨hseq, hsequence⟩

theorem Splits.sequences {bytes : List UInt8} {pieces : List (UInt16 × List UInt8)}
    (h : Splits bytes pieces) : Sequences (pieces.map Prod.fst) bytes := by
  obtain ⟨hsequence, rfl⟩ := h
  induction pieces with
  | nil => exact .nil
  | cons piece pieces ih =>
      rw [List.forall_mem_cons] at hsequence
      rw [List.map_cons, List.flatMap_cons]
      exact .cons hsequence.1 (ih hsequence.2)

theorem exists_splits {units : List UInt16} {bytes : List UInt8} (h : Sequences units bytes) :
    ∃ pieces, Splits bytes pieces := by
  induction h with
  | nil => exact ⟨[], .nil⟩
  | cons hseq _ ih =>
      obtain ⟨pieces, hpieces⟩ := ih
      exact ⟨_, .cons hseq hpieces⟩

/-- Bytes store one list of units only. -/
theorem Sequences.units_unique {units others : List UInt16} {bytes : List UInt8}
    (h : Sequences units bytes) (h' : Sequences others bytes) : units = others := by
  rw [← decodeUnits_eq_ok_iff] at h h'
  rw [h] at h'
  exact Except.ok.inj h'

theorem Sequence.ne_nil {unit : UInt16} {bytes : List UInt8} (h : Sequence unit bytes) :
    bytes ≠ [] := by
  cases h <;> exact List.cons_ne_nil _ _

theorem Sequence.sequences {unit : UInt16} {bytes : List UInt8} (h : Sequence unit bytes) :
    Sequences [unit] bytes := by
  rw [← List.append_nil bytes]
  exact .cons h .nil

/-- No sequence is the beginning of a longer one. -/
theorem Sequence.eq_of_append {unit other : UInt16} {bytes more : List UInt8}
    (h : Sequence unit bytes) (h' : Sequence other (bytes ++ more)) : unit = other ∧ more = [] := by
  -- Reading the longer one gives its only unit, but the shorter one is read as a unit first.
  have hread := unitsFrom_sequences h'.sequences 0 [] []
  rw [List.append_nil, unitsFrom_sequence h, unitsFrom] at hread
  obtain ⟨units, hunits, hmore⟩ := sequences_of_unitsFrom hread
  rw [List.append_nil, List.reverse_reverse, List.reverse_singleton, List.singleton_append,
    List.cons.injEq] at hunits
  obtain ⟨hunit, rfl⟩ := hunits
  refine ⟨hunit.symm, ?_⟩
  cases hmore
  rfl

theorem Sequence.eq_of_append_eq {unit other : UInt16} {bytes more rest others : List UInt8}
    (h : Sequence unit bytes) (h' : Sequence other more) (heq : bytes ++ rest = more ++ others) :
    unit = other ∧ bytes = more ∧ rest = others := by
  rcases List.append_eq_append_iff.mp heq with ⟨extra, rfl, rfl⟩ | ⟨extra, rfl, rfl⟩
  · obtain ⟨hunit, rfl⟩ := h.eq_of_append h'
    exact ⟨hunit, (List.append_nil bytes).symm, rfl⟩
  · obtain ⟨hunit, rfl⟩ := h'.eq_of_append h
    exact ⟨hunit.symm, List.append_nil more, rfl⟩

/-- **Bytes come apart into sequences in one way only.** -/
theorem Splits.unique {bytes : List UInt8} {pieces others : List (UInt16 × List UInt8)}
    (h : Splits bytes pieces) (h' : Splits bytes others) : pieces = others := by
  obtain ⟨hsequence, rfl⟩ := h
  obtain ⟨hother, hwhole⟩ := h'
  -- The first pieces begin the same bytes, so they are the same, and so is what is left of both.
  induction pieces generalizing others with
  | nil =>
      cases others with
      | nil => rfl
      | cons other others =>
          have hnil := (List.append_eq_nil_iff.mp hwhole).1
          exact absurd hnil (hother other List.mem_cons_self).ne_nil
  | cons piece pieces ih =>
      rw [List.forall_mem_cons] at hsequence
      cases others with
      | nil =>
          have hnil := (List.append_eq_nil_iff.mp hwhole.symm).1
          exact absurd hnil hsequence.1.ne_nil
      | cons other others =>
          rw [List.forall_mem_cons] at hother
          rw [List.flatMap_cons, List.flatMap_cons] at hwhole
          obtain ⟨hunit, hbytes, hrest⟩ := hother.1.eq_of_append_eq hsequence.1 hwhole
          rw [ih hsequence.2 hother.2 hrest, Prod.ext hunit hbytes]

theorem existsUnique_splits {units : List UInt16} {bytes : List UInt8}
    (h : Sequences units bytes) : ∃! pieces, Splits bytes pieces := by
  obtain ⟨pieces, hpieces⟩ := exists_splits h
  exact ⟨pieces, hpieces, fun _ hother => hother.unique hpieces⟩

/-! ## 2. Canonical sequences -/

/-- A sequence of one byte is canonical for the units from 1 to 7F, one of two bytes for zero and
the units from 80 to 7FF, and one of three bytes for the units from 800 on. -/
structure Canonical (unit : UInt16) (bytes : List UInt8) : Prop where
  one : bytes.length = 1 → 0x01 ≤ unit.toNat ∧ unit.toNat ≤ 0x7F
  two : bytes.length = 2 → unit.toNat = 0 ∨ 0x80 ≤ unit.toNat ∧ unit.toNat ≤ 0x7FF
  three : bytes.length = 3 → 0x800 ≤ unit.toNat

theorem canonical_one {unit : UInt16} {byte : UInt8}
    (h : 0x01 ≤ unit.toNat ∧ unit.toNat ≤ 0x7F) : Canonical unit [byte] := by
  refine ⟨fun _ => h, ?_, ?_⟩
  · rintro ⟨⟩
  · rintro ⟨⟩

theorem canonical_two {unit : UInt16} {first second : UInt8}
    (h : unit.toNat = 0 ∨ 0x80 ≤ unit.toNat ∧ unit.toNat ≤ 0x7FF) :
    Canonical unit [first, second] := by
  refine ⟨?_, fun _ => h, ?_⟩
  · rintro ⟨⟩
  · rintro ⟨⟩

theorem canonical_three {unit : UInt16} {first second third : UInt8} (h : 0x800 ≤ unit.toNat) :
    Canonical unit [first, second, third] := by
  refine ⟨?_, ?_, fun _ => h⟩
  · rintro ⟨⟩
  · rintro ⟨⟩

/-- A unit is written canonically. -/
theorem canonical_encodeUnit (unit : UInt16) : Canonical unit (encodeUnit unit) := by
  simp only [encodeUnit]
  split_ifs with hone htwo
  · exact canonical_one (by omega)
  · exact canonical_two (by omega)
  · exact canonical_three (by omega)

/-- **Of the sequences that store a unit the canonical one is written.** -/
theorem Sequence.eq_encodeUnit_iff {unit : UInt16} {bytes : List UInt8}
    (h : Sequence unit bytes) : bytes = encodeUnit unit ↔ Canonical unit bytes := by
  constructor
  · rintro rfl
    exact canonical_encodeUnit unit
  · intro hcanonical
    cases h with
    | one bits hbits =>
        have hnum : (UInt16.ofNat bits).toNat = bits :=
          UInt16.toNat_ofNat_of_lt' (show _ < 0x10000 by omega)
        have hrange := hcanonical.one rfl
        rw [hnum] at hrange
        simp only [encodeUnit, hnum]
        rw [if_pos (by omega)]
    | two high low hhigh hlow =>
        have hnum : (UInt16.ofNat (0x40 * high + low)).toNat = 0x40 * high + low :=
          UInt16.toNat_ofNat_of_lt' (show _ < 0x10000 by omega)
        have hrange := hcanonical.two rfl
        have hdiv : (0x40 * high + low) / 0x40 = high := by omega
        have hmod : (0x40 * high + low) % 0x40 = low := by omega
        rw [hnum] at hrange
        simp only [encodeUnit, hnum]
        rw [if_neg (by omega), if_pos (by omega), hdiv, hmod]
    | three high middle low hhigh hmiddle hlow =>
        have hnum : (UInt16.ofNat (0x1000 * high + 0x40 * middle + low)).toNat
            = 0x1000 * high + 0x40 * middle + low :=
          UInt16.toNat_ofNat_of_lt' (show _ < 0x10000 by omega)
        have hrange := hcanonical.three rfl
        have hfirst : (0x1000 * high + 0x40 * middle + low) / 0x1000 = high := by omega
        have hsecond : (0x1000 * high + 0x40 * middle + low) / 0x40 % 0x40 = middle := by omega
        have hthird : (0x1000 * high + 0x40 * middle + low) % 0x40 = low := by omega
        rw [hnum] at hrange
        simp only [encodeUnit, hnum]
        rw [if_neg (by omega), if_neg (by omega), hfirst, hsecond, hthird]

/-! ## 3. Canonical texts -/

/-- Writing the units of pieces anew keeps the units and makes the forms canonical. -/
theorem splits_encodeUnit {s : String} {pieces : List (UInt16 × List UInt8)}
    (h : pieces.map Prod.fst = Utf16.units s) :
    Splits (encode s) (pieces.map fun piece => (piece.1, encodeUnit piece.1)) where
  sequence := by
    intro piece hpiece
    obtain ⟨old, -, rfl⟩ := List.mem_map.mp hpiece
    exact sequence_encodeUnit old.1
  whole := by
    rw [encode, ← h, List.flatMap_map, List.flatMap_map]

/-- **A text is written as the bytes that it was read from exactly if these are canonical.** -/
theorem encode_eq_iff_canonical {bytes : List UInt8} {s : String}
    {pieces : List (UInt16 × List UInt8)} (hdecode : decode bytes = .ok s)
    (hsplits : Splits bytes pieces) :
    encode s = bytes ↔ ∀ piece ∈ pieces, Canonical piece.1 piece.2 := by
  have hunits : pieces.map Prod.fst = Utf16.units s :=
    hsplits.sequences.units_unique (decode_eq_ok_iff.mp hdecode)
  have hwritten := splits_encodeUnit hunits
  constructor
  · intro heq piece hpiece
    rw [heq] at hwritten
    rw [← (hsplits.sequence piece hpiece).eq_encodeUnit_iff]
    -- Both ways to take the bytes apart are the same, and so are their pieces.
    have hsame := hsplits.unique hwritten
    rw [hsame] at hpiece
    obtain ⟨old, -, rfl⟩ := List.mem_map.mp hpiece
    rfl
  · intro hcanonical
    have hsame : pieces.map (fun piece => (piece.1, encodeUnit piece.1)) = pieces := by
      refine (List.map_congr_left ?_).trans (List.map_id pieces)
      intro piece hpiece
      have hform := (hsplits.sequence piece hpiece).eq_encodeUnit_iff.mpr (hcanonical piece hpiece)
      exact Prod.ext rfl hform.symm
    rw [← hwritten.whole, hsame, hsplits.whole]

/-- **What is written is exactly what can be read and comes apart canonically.** -/
theorem exists_encode_eq_iff {bytes : List UInt8} :
    (∃ s, encode s = bytes) ↔
      ∃ s pieces, decode bytes = .ok s ∧ Splits bytes pieces ∧
        ∀ piece ∈ pieces, Canonical piece.1 piece.2 := by
  constructor
  · rintro ⟨s, rfl⟩
    have hdecode : decode (encode s) = .ok s := decode_eq_ok_iff.mpr (sequences_encode s)
    obtain ⟨pieces, hsplits⟩ := exists_splits (sequences_encode s)
    exact ⟨s, pieces, hdecode, hsplits, (encode_eq_iff_canonical hdecode hsplits).mp rfl⟩
  · rintro ⟨s, pieces, hdecode, hsplits, hcanonical⟩
    exact ⟨s, (encode_eq_iff_canonical hdecode hsplits).mpr hcanonical⟩

/-! ## 4. Written texts beside standard ones -/

/-- No byte of a written unit is zero. -/
theorem ne_zero_of_mem_encodeUnit {unit : UInt16} {byte : UInt8} (h : byte ∈ encodeUnit unit) :
    byte ≠ 0 := by
  have hlt := unit.toNat_lt
  have hbyte : ∀ n, 0 < n → n < 0x100 → UInt8.ofNat n ≠ 0 := by
    intro n hpos hn hzero
    have hnum := congrArg UInt8.toNat hzero
    rw [UInt8.toNat_ofNat_of_lt' hn] at hnum
    exact absurd hnum (Nat.ne_of_gt hpos)
  simp only [encodeUnit] at h
  split_ifs at h with hone htwo
  · rw [List.mem_singleton.mp h]
    exact hbyte _ (by omega) (by omega)
  · simp only [List.mem_cons, List.not_mem_nil, or_false] at h
    rcases h with rfl | rfl
    · exact hbyte _ (by omega) (by omega)
    · exact hbyte _ (by omega) (by omega)
  · simp only [List.mem_cons, List.not_mem_nil, or_false] at h
    rcases h with rfl | rfl | rfl
    · exact hbyte _ (by omega) (by omega)
    · exact hbyte _ (by omega) (by omega)
    · exact hbyte _ (by omega) (by omega)

/-- **A written text holds no zero byte and no byte from `F0` on.** -/
theorem byte_of_mem_encode {s : String} {byte : UInt8} (h : byte ∈ encode s) :
    byte ≠ 0 ∧ byte.toNat < 0xF0 := by
  refine ⟨?_, (sequences_encode s).byte_lt h⟩
  obtain ⟨unit, -, hunit⟩ := List.mem_flatMap.mp h
  exact ne_zero_of_mem_encodeUnit hunit

/-- A character other than zero that is one unit is written in its standard form. -/
theorem encodeUnit_eq_utf8EncodeChar {c : Char} (hzero : c ≠ '\x00')
    (hsmall : isSupplementary c = false) :
    (Utf16.ofChar c).flatMap encodeUnit = String.utf8EncodeChar c := by
  have hc := isSupplementary_eq_false_iff.mp hsmall
  have hval : c.val.toNat = c.toNat := rfl
  have hnum : (UInt16.ofNat c.toNat).toNat = c.toNat := UInt16.toNat_ofNat_of_lt' hc
  have hpos : c.toNat ≠ 0 := fun h => hzero (Char.toNat_inj.mp h)
  rw [Utf16.ofChar, if_pos hc, List.flatMap_singleton, eq_comm,
    (sequence_utf8EncodeChar hc).eq_encodeUnit_iff]
  -- The standard form is the shortest, too.
  rw [String.utf8EncodeChar.eq_1, hval]
  split_ifs with hone htwo hthree
  · exact canonical_one (by omega)
  · exact canonical_two (by omega)
  · exact canonical_three (by omega)
  · omega

theorem length_encodeUnit_of_le {unit : UInt16} (h : 0x800 ≤ unit.toNat) :
    (encodeUnit unit).length = 3 := by
  simp only [encodeUnit]
  rw [if_neg (by omega), if_neg (by omega)]
  rfl

/-- The two surrogates of a supplementary character take three bytes each. -/
theorem length_encodeUnit_of_isSupplementary {c : Char} (hc : isSupplementary c = true) :
    ((Utf16.ofChar c).flatMap encodeUnit).length = (String.utf8EncodeChar c).length + 2 := by
  have hval : c.val.toNat = c.toNat := rfl
  rw [isSupplementary, decide_eq_true_iff] at hc
  have hstandard : (String.utf8EncodeChar c).length = 4 := by
    rw [String.utf8EncodeChar.eq_1, hval, if_neg (by omega), if_neg (by omega), if_neg (by omega)]
    rfl
  rcases Utf16.ofChar_cases c with ⟨unit, -, hhigh, hlow, hunit⟩ | ⟨high, low, hunits, hhigh, hlow, -⟩
  · -- a unit that is no surrogate is too small
    have hnum := Utf16.toNat_ofNat_unit hhigh hlow
    have hlt := unit.toNat_lt
    rw [hunit] at hnum
    omega
  · simp only [Utf16.isHigh, Utf16.isLow, Bool.and_eq_true, decide_eq_true_eq] at hhigh hlow
    rw [hunits, List.flatMap_cons, List.flatMap_singleton, List.length_append,
      length_encodeUnit_of_le (by omega), length_encodeUnit_of_le (by omega), hstandard]

/-- What a character adds to the length of a written text. -/
theorem length_encodeUnit_ofChar (c : Char) :
    ((Utf16.ofChar c).flatMap encodeUnit).length
      = (String.utf8EncodeChar c).length + (if c = '\x00' then 1 else 0)
        + 2 * (if isSupplementary c = true then 1 else 0) := by
  by_cases hzero : c = '\x00'
  · rw [hzero]
    rfl
  · by_cases hlarge : isSupplementary c = true
    · rw [length_encodeUnit_of_isSupplementary hlarge, if_neg hzero, if_pos hlarge]
    · rw [encodeUnit_eq_utf8EncodeChar hzero (Bool.eq_false_iff.mpr hlarge), if_neg hzero,
        if_neg hlarge]
      rfl

/-- **The length of a written text**: that of its standard form, one more for each zero and two
more for each supplementary character. -/
theorem length_encode (s : String) :
    (encode s).length = (standardForm s).length + s.toList.count '\x00'
      + 2 * s.toList.countP isSupplementary := by
  rw [encode, Utf16.units, standardForm]
  induction s.toList with
  | nil => rfl
  | cons c chars ih =>
      rw [List.flatMap_cons, List.flatMap_append, List.length_append, ih, List.flatMap_cons,
        List.length_append, List.count_cons, List.countP_cons, length_encodeUnit_ofChar]
      simp only [beq_iff_eq]
      omega

/-- **A text is written in its standard form exactly if it has neither zeros nor supplementary
characters.** -/
theorem encode_eq_standardForm_iff {s : String} :
    encode s = standardForm s ↔ ∀ c ∈ s.toList, c ≠ '\x00' ∧ isSupplementary c = false := by
  constructor
  · intro heq c hc
    -- Each of them would make the written form longer.
    have hlength := length_encode s
    rw [heq] at hlength
    have hzeros : s.toList.count '\x00' = 0 := by omega
    have hlarge : s.toList.countP isSupplementary = 0 := by omega
    refine ⟨?_, ?_⟩
    · rintro rfl
      exact List.count_eq_zero.mp hzeros hc
    · rw [← Bool.not_eq_true]
      exact List.countP_eq_zero.mp hlarge c hc
  · intro h
    rw [encode, Utf16.units, standardForm, List.flatMap_assoc, List.flatMap_def, List.flatMap_def]
    congr 1
    apply List.map_congr_left
    intro c hc
    exact encodeUnit_eq_utf8EncodeChar (h c hc).1 (h c hc).2

end Modified

end ClassPool.Text
