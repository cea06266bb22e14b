/-
The forms in which a payload stores a text, and why reading them is no gamble. A payload that
is the standard UTF-8 form of a text stores that text; only a payload that is the standard
form of no text is looked at as modified UTF-8. `read_eq_ok_iff` and `read_eq_error_iff` say
that reading follows this rule.

That writing modified UTF-8 is safe although standard UTF-8 is tried first rests on one bound:
no byte of a modified form reaches `F0`, while every character beyond the units starts with
such a byte in standard UTF-8. So a modified form that is also a standard form holds only
characters of one unit, and for those the two forms are the same sequences
(`sequences_standardForm`). `read_encode` follows.
-/
import ClassPool.Text.Modified
import ClassPool.Proofs.Text.Sequences

set_option autoImplicit false

namespace ClassPool.Text

open Modified

/-! ## 1. Standard form -/

/-- The standard UTF-8 form of a text. -/
def standardForm (s : String) : List UInt8 :=
  s.toList.flatMap String.utf8EncodeChar

/-- A text is stored by its standard form, and by its modified forms as far as these are the
standard form of no text. -/
inductive Stored : String → List UInt8 → Prop where
  | standard (s : String) : Stored s (standardForm s)
  | modified {s : String} {bytes : List UInt8} (hstandard : ∀ t, standardForm t ≠ bytes)
      (hbytes : Sequences (Utf16.units s) bytes) : Stored s bytes

theorem toByteArray_standardForm (s : String) : (standardForm s).toByteArray = s.toByteArray := by
  rw [← String.utf8Encode_toList]
  rfl

theorem eq_of_toByteArray_eq {bytes more : List UInt8}
    (h : bytes.toByteArray = more.toByteArray) : bytes = more := by
  rw [← List.toList_data_toByteArray (l := bytes), h, List.toList_data_toByteArray]

/-- Bytes are read as the text whose standard form they are. -/
theorem standard?_eq_some_iff {bytes : List UInt8} {s : String} :
    standard? bytes = some s ↔ standardForm s = bytes := by
  rw [standard?, String.fromUTF8?]
  constructor
  · intro h
    split_ifs at h
    apply eq_of_toByteArray_eq
    rw [toByteArray_standardForm, ← Option.some.inj h]
    rfl
  · rintro rfl
    rw [dif_pos (by rw [toByteArray_standardForm]; exact s.isValidUTF8), Option.some.injEq,
      ← String.toByteArray_inj]
    exact toByteArray_standardForm s

theorem standard?_eq_none_iff {bytes : List UInt8} :
    standard? bytes = none ↔ ∀ s, standardForm s ≠ bytes := by
  rw [Option.eq_none_iff_forall_ne_some]
  exact forall_congr' fun s => not_congr standard?_eq_some_iff

/-! ## 2. Reading -/

/-- **A payload is read as the text that it stores.** -/
theorem read_eq_ok_iff {bytes : List UInt8} {s : String} :
    read bytes = .ok s ↔ Stored s bytes := by
  rw [read]
  cases hstd : standard? bytes with
  | some t =>
      have ht := standard?_eq_some_iff.mp hstd
      simp only [Except.ok.injEq]
      constructor
      · rintro rfl
        rw [← ht]
        exact .standard t
      · intro h
        cases h with
        | standard =>
            rw [standard?_eq_some_iff.mpr rfl] at hstd
            exact (Option.some.inj hstd).symm
        | modified hnone => exact absurd ht (hnone t)
  | none =>
      have hnone := standard?_eq_none_iff.mp hstd
      simp only [decode_eq_ok_iff]
      constructor
      · exact .modified hnone
      · intro h
        cases h with
        | standard => exact absurd rfl (hnone s)
        | modified _ hbytes => exact hbytes

/-- **A payload that stores no text** is the standard form of none, and what is wrong with it is
what is wrong with it as modified UTF-8. -/
theorem read_eq_error_iff {bytes : List UInt8} {cause : Malformed} :
    read bytes = .error cause ↔
      (∀ s, standardForm s ≠ bytes) ∧ Modified.decode bytes = .error cause := by
  rw [read, ← standard?_eq_none_iff]
  cases standard? bytes with
  | some t => simp
  | none => simp

/-! ## 3. Where the two forms agree -/

/-- Whether a character is one of those beyond the units, which take two of them. -/
def isSupplementary (c : Char) : Bool :=
  0x10000 ≤ c.toNat

theorem isSupplementary_eq_false_iff {c : Char} : isSupplementary c = false ↔ c.toNat < 0x10000 := by
  rw [isSupplementary, decide_eq_false_iff_not, Nat.not_le]

/-- The standard form of a character of one unit is a sequence of that unit. -/
theorem sequence_utf8EncodeChar {c : Char} (hc : c.toNat < 0x10000) :
    Sequence (UInt16.ofNat c.toNat) (String.utf8EncodeChar c) := by
  have hval : c.val.toNat = c.toNat := rfl
  rw [String.utf8EncodeChar.eq_1, hval]
  split_ifs with hone htwo hthree
  · exact .one c.toNat (by omega)
  · have h := Sequence.two (c.toNat / 0x40 % 0x20) (c.toNat % 0x40) (by omega) (by omega)
    have hnum : 0x40 * (c.toNat / 0x40 % 0x20) + c.toNat % 0x40 = c.toNat := by omega
    rwa [hnum, Nat.add_comm 0xC0, Nat.add_comm 0x80] at h
  · have h := Sequence.three (c.toNat / 0x1000 % 0x10) (c.toNat / 0x40 % 0x40) (c.toNat % 0x40)
      (by omega) (by omega) (by omega)
    have hnum : 0x1000 * (c.toNat / 0x1000 % 0x10) + 0x40 * (c.toNat / 0x40 % 0x40)
        + c.toNat % 0x40 = c.toNat := by omega
    rwa [hnum, Nat.add_comm 0xE0, Nat.add_comm 0x80, Nat.add_comm 0x80] at h
  · omega

/-- **Characters of one unit each** have a standard form that is a modified form too. -/
theorem sequences_flatMap_utf8EncodeChar {chars : List Char}
    (h : ∀ c ∈ chars, isSupplementary c = false) :
    Sequences (chars.flatMap Utf16.ofChar) (chars.flatMap String.utf8EncodeChar) := by
  induction chars with
  | nil => exact .nil
  | cons c chars ih =>
      rw [List.forall_mem_cons] at h
      have hc := isSupplementary_eq_false_iff.mp h.1
      rw [List.flatMap_cons, List.flatMap_cons, Utf16.ofChar, if_pos hc]
      exact .cons (sequence_utf8EncodeChar hc) (ih h.2)

/-- The standard form of a character of two units starts with a byte that no modified form
has. -/
theorem utf8EncodeChar_of_isSupplementary {c : Char} (hc : isSupplementary c = true) :
    ∃ lead rest, String.utf8EncodeChar c = lead :: rest ∧ 0xF0 ≤ lead.toNat := by
  have hval : c.val.toNat = c.toNat := rfl
  rw [isSupplementary, decide_eq_true_iff] at hc
  rw [String.utf8EncodeChar.eq_1, hval, if_neg (by omega), if_neg (by omega), if_neg (by omega)]
  refine ⟨_, _, rfl, ?_⟩
  rw [UInt8.toNat_ofNat_of_lt' (show _ < 0x100 by omega)]
  omega

/-- A standard form without bytes from `F0` on is a modified form of the same text. -/
theorem sequences_standardForm {s : String} (h : ∀ byte ∈ standardForm s, byte.toNat < 0xF0) :
    Sequences (Utf16.units s) (standardForm s) := by
  apply sequences_flatMap_utf8EncodeChar
  intro c hmem
  rw [← Bool.not_eq_true]
  -- A larger character would bring in one of the bytes that are excluded.
  intro hlarge
  obtain ⟨lead, rest, hform, hlead⟩ := utf8EncodeChar_of_isSupplementary hlarge
  have hlt := h lead (List.mem_flatMap.mpr ⟨c, hmem, by rw [hform]; exact List.mem_cons_self⟩)
  omega

/-- No byte of a stored unit reaches `F0`. -/
theorem Modified.Sequence.byte_lt {unit : UInt16} {bytes : List UInt8} (h : Sequence unit bytes)
    {byte : UInt8} (hmem : byte ∈ bytes) : byte.toNat < 0xF0 := by
  have hbyte : ∀ n, n < 0xF0 → (UInt8.ofNat n).toNat < 0xF0 := by
    intro n hn
    rw [UInt8.toNat_ofNat']
    omega
  cases h with
  | one bits hbits =>
      rw [List.mem_singleton.mp hmem]
      exact hbyte _ (by omega)
  | two high low hhigh hlow =>
      simp only [List.mem_cons, List.not_mem_nil, or_false] at hmem
      rcases hmem with rfl | rfl <;> exact hbyte _ (by omega)
  | three high middle low hhigh hmiddle hlow =>
      simp only [List.mem_cons, List.not_mem_nil, or_false] at hmem
      rcases hmem with rfl | rfl | rfl <;> exact hbyte _ (by omega)

theorem Modified.Sequences.byte_lt {units : List UInt16} {bytes : List UInt8}
    (h : Sequences units bytes) {byte : UInt8} (hmem : byte ∈ bytes) : byte.toNat < 0xF0 := by
  induction h with
  | nil => simp at hmem
  | cons hseq _ ih =>
      rcases List.mem_append.mp hmem with hfirst | hrest
      · exact hseq.byte_lt hfirst
      · exact ih hrest

/-- **What is written is stored**, whichever way it is read back. -/
theorem stored_encode (s : String) : Stored s (Modified.encode s) := by
  have hseq := sequences_encode s
  by_cases hstd : ∃ t, standardForm t = Modified.encode s
  · obtain ⟨t, ht⟩ := hstd
    -- The written form stays below `F0`, so as a standard form it is a modified form too. It is
    -- read as one text only, and this is the text it was written for.
    have hseq' : Sequences (Utf16.units t) (Modified.encode s) := by
      rw [← ht]
      apply sequences_standardForm
      intro byte hmem
      rw [ht] at hmem
      exact hseq.byte_lt hmem
    have hts : t = s := by
      have hdecode := decode_eq_ok_iff.mpr hseq
      rw [decode_eq_ok_iff.mpr hseq'] at hdecode
      exact Except.ok.inj hdecode
    rw [← ht, hts]
    exact .standard s
  · exact .modified (fun t ht => hstd ⟨t, ht⟩) hseq

/-! ## 4. Reading what was written -/

/-- A text is read back as it was written. -/
theorem read_encode (s : String) : read (Modified.encode s) = .ok s :=
  read_eq_ok_iff.mpr (stored_encode s)

/-- **What is written is read back by either reader**: as modified UTF-8, and also where standard
UTF-8 is tried first. -/
theorem decode_and_read_encode (s : String) :
    Modified.decode (Modified.encode s) = .ok s ∧ read (Modified.encode s) = .ok s :=
  ⟨decode_eq_ok_iff.mpr (sequences_encode s), read_encode s⟩

end ClassPool.Text
