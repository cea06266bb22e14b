/-
The grammar of modified UTF-8. A unit of sixteen bits is stored in one, two or three bytes,
and `Sequence` says by their bits which bytes those may be: forms longer than necessary
belong to it, and so does a zero byte. Stored units are such sequences one after the other.

`decodeUnits_eq_ok_iff` says that reading succeeds on exactly these byte strings and gives
their units, and `decode_eq_ok_iff` says the same of texts. The written form of a text is one
of its forms (`sequences_encode`), and reading it is therefore no case of its own.
-/
import ClassPool.Text.Modified
import ClassPool.Proofs.Text.Surrogates
import Mathlib.Tactic.SplitIfs

set_option autoImplicit false

namespace ClassPool.Text.Modified

/-! ## 1. The grammar -/

/-- The bytes that a unit may be stored in. The bits of the unit are spread over the bytes from
the highest on; the leading bits of each byte say how many there are. -/
inductive Sequence : UInt16 → List UInt8 → Prop where
  /-- `0xxxxxxx` -/
  | one (bits : Nat) (hbits : bits < 0x80) : Sequence (UInt16.ofNat bits) [UInt8.ofNat bits]
  /-- `110xxxxx 10yyyyyy` -/
  | two (high low : Nat) (hhigh : high < 0x20) (hlow : low < 0x40) :
      Sequence (UInt16.ofNat (0x40 * high + low))
        [UInt8.ofNat (0xC0 + high), UInt8.ofNat (0x80 + low)]
  /-- `1110xxxx 10yyyyyy 10zzzzzz` -/
  | three (high middle low : Nat) (hhigh : high < 0x10) (hmiddle : middle < 0x40)
      (hlow : low < 0x40) :
      Sequence (UInt16.ofNat (0x1000 * high + 0x40 * middle + low))
        [UInt8.ofNat (0xE0 + high), UInt8.ofNat (0x80 + middle), UInt8.ofNat (0x80 + low)]

/-- The bytes that units may be stored in: a sequence for each, one after the other. -/
inductive Sequences : List UInt16 → List UInt8 → Prop where
  | nil : Sequences [] []
  | cons {unit : UInt16} {units : List UInt16} {bytes rest : List UInt8} :
      Sequence unit bytes → Sequences units rest → Sequences (unit :: units) (bytes ++ rest)

/-! ## 2. Leads and what follows them -/

theorem ofLead?_eq_one {lead : UInt8} : Form.ofLead? lead = some .one ↔ lead.toNat < 0x80 := by
  unfold Form.ofLead?
  split_ifs <;> simp <;> omega

theorem ofLead?_eq_two {lead : UInt8} :
    Form.ofLead? lead = some .two ↔ 0xC0 ≤ lead.toNat ∧ lead.toNat < 0xE0 := by
  unfold Form.ofLead?
  split_ifs <;> simp <;> omega

theorem ofLead?_eq_three {lead : UInt8} :
    Form.ofLead? lead = some .three ↔ 0xE0 ≤ lead.toNat ∧ lead.toNat < 0xF0 := by
  unfold Form.ofLead?
  split_ifs <;> simp <;> omega

theorem isContinuation_iff {byte : UInt8} :
    isContinuation byte = true ↔ 0x80 ≤ byte.toNat ∧ byte.toNat < 0xC0 := by
  simp [isContinuation]

/-! ## 3. Reading stored units -/

/-- A sequence is read as its unit, whatever follows it. -/
theorem unitsFrom_sequence {unit : UInt16} {bytes : List UInt8} (h : Sequence unit bytes)
    (position : Nat) (done : List UInt16) (rest : List UInt8) :
    unitsFrom position done (bytes ++ rest)
      = unitsFrom (position + bytes.length) (unit :: done) rest := by
  -- In each form the leading bits of the bytes are those that the reader asks for, and the
  -- remainders that it takes give back the bits that were spread.
  cases h with
  | one bits hbits =>
      have hbyte : (UInt8.ofNat bits).toNat = bits :=
        UInt8.toNat_ofNat_of_lt' (show bits < 0x100 by omega)
      have hform : Form.ofLead? (UInt8.ofNat bits) = some .one :=
        ofLead?_eq_one.mpr (by rw [hbyte]; exact hbits)
      rw [List.singleton_append, unitsFrom.eq_def]
      simp only [hform, hbyte, List.length_singleton]
  | two high low hhigh hlow =>
      have hlead : (UInt8.ofNat (0xC0 + high)).toNat = 0xC0 + high :=
        UInt8.toNat_ofNat_of_lt' (show _ < 0x100 by omega)
      have hsecond : (UInt8.ofNat (0x80 + low)).toNat = 0x80 + low :=
        UInt8.toNat_ofNat_of_lt' (show _ < 0x100 by omega)
      have hform : Form.ofLead? (UInt8.ofNat (0xC0 + high)) = some .two :=
        ofLead?_eq_two.mpr (by rw [hlead]; omega)
      have hcont : isContinuation (UInt8.ofNat (0x80 + low)) = true :=
        isContinuation_iff.mpr (by rw [hsecond]; omega)
      have hunit : (0xC0 + high) % 0x20 * 0x40 + (0x80 + low) % 0x40 = 0x40 * high + low := by
        omega
      rw [List.cons_append, List.singleton_append, unitsFrom.eq_def]
      simp only [hform, hcont, if_true, unitOfTwo, hlead, hsecond, hunit, List.length_cons,
        List.length_nil]
  | three high middle low hhigh hmiddle hlow =>
      have hlead : (UInt8.ofNat (0xE0 + high)).toNat = 0xE0 + high :=
        UInt8.toNat_ofNat_of_lt' (show _ < 0x100 by omega)
      have hsecond : (UInt8.ofNat (0x80 + middle)).toNat = 0x80 + middle :=
        UInt8.toNat_ofNat_of_lt' (show _ < 0x100 by omega)
      have hthird : (UInt8.ofNat (0x80 + low)).toNat = 0x80 + low :=
        UInt8.toNat_ofNat_of_lt' (show _ < 0x100 by omega)
      have hform : Form.ofLead? (UInt8.ofNat (0xE0 + high)) = some .three :=
        ofLead?_eq_three.mpr (by rw [hlead]; omega)
      have hcont : isContinuation (UInt8.ofNat (0x80 + middle)) = true :=
        isContinuation_iff.mpr (by rw [hsecond]; omega)
      have hcont' : isContinuation (UInt8.ofNat (0x80 + low)) = true :=
        isContinuation_iff.mpr (by rw [hthird]; omega)
      have hunit : (0xE0 + high) % 0x10 * 0x1000 + (0x80 + middle) % 0x40 * 0x40
          + (0x80 + low) % 0x40 = 0x1000 * high + 0x40 * middle + low := by omega
      rw [List.cons_append, List.cons_append, List.singleton_append, unitsFrom.eq_def]
      simp only [hform, hcont, hcont', if_true, unitOfThree, hlead, hsecond, hthird, hunit,
        List.length_cons, List.length_nil]

theorem unitsFrom_sequences {units : List UInt16} {bytes : List UInt8} (h : Sequences units bytes)
    (position : Nat) (done : List UInt16) (rest : List UInt8) :
    unitsFrom position done (bytes ++ rest)
      = unitsFrom (position + bytes.length) (units.reverse ++ done) rest := by
  induction h generalizing position done with
  | nil => rfl
  | cons hseq _ ih =>
      rw [List.append_assoc, unitsFrom_sequence hseq, ih]
      simp [Nat.add_assoc]

/-! ## 4. What is read was stored -/

theorem sequence_of_one {lead : UInt8} (hlead : Form.ofLead? lead = some .one) :
    Sequence (UInt16.ofNat lead.toNat) [lead] := by
  have h := Sequence.one lead.toNat (ofLead?_eq_one.mp hlead)
  rwa [UInt8.ofNat_toNat] at h

theorem sequence_of_two {lead second : UInt8} (hlead : Form.ofLead? lead = some .two)
    (hsecond : isContinuation second = true) :
    Sequence (unitOfTwo lead second) [lead, second] := by
  rw [ofLead?_eq_two] at hlead
  rw [isContinuation_iff] at hsecond
  have h := Sequence.two (lead.toNat % 0x20) (second.toNat % 0x40) (by omega) (by omega)
  have hlead' : 0xC0 + lead.toNat % 0x20 = lead.toNat := by omega
  have hsecond' : 0x80 + second.toNat % 0x40 = second.toNat := by omega
  rw [hlead', hsecond', UInt8.ofNat_toNat, UInt8.ofNat_toNat, Nat.mul_comm] at h
  exact h

theorem sequence_of_three {lead second third : UInt8} (hlead : Form.ofLead? lead = some .three)
    (hsecond : isContinuation second = true) (hthird : isContinuation third = true) :
    Sequence (unitOfThree lead second third) [lead, second, third] := by
  rw [ofLead?_eq_three] at hlead
  rw [isContinuation_iff] at hsecond hthird
  have h := Sequence.three (lead.toNat % 0x10) (second.toNat % 0x40) (third.toNat % 0x40)
    (by omega) (by omega) (by omega)
  have hlead' : 0xE0 + lead.toNat % 0x10 = lead.toNat := by omega
  have hsecond' : 0x80 + second.toNat % 0x40 = second.toNat := by omega
  have hthird' : 0x80 + third.toNat % 0x40 = third.toNat := by omega
  rw [hlead', hsecond', hthird', UInt8.ofNat_toNat, UInt8.ofNat_toNat, UInt8.ofNat_toNat,
    Nat.mul_comm 0x1000, Nat.mul_comm 0x40] at h
  exact h

/-- Bytes that can be read are the stored form of the units that they are read as. -/
theorem sequences_of_unitsFrom {position : Nat} {done units : List UInt16} {bytes : List UInt8}
    (h : unitsFrom position done bytes = .ok units) :
    ∃ more, units = done.reverse ++ more ∧ Sequences more bytes := by
  -- The steps that go on are those behind a whole sequence; all others are errors.
  fun_induction unitsFrom position done bytes with
  | case1 position done =>
      refine ⟨[], ?_, .nil⟩
      simpa using h.symm
  | case2 position done lead rest hlead ih =>
      obtain ⟨more, hunits, hmore⟩ := ih h
      exact ⟨UInt16.ofNat lead.toNat :: more, by simp [hunits], .cons (sequence_of_one hlead) hmore⟩
  | case4 position done lead hlead second rest hsecond ih =>
      obtain ⟨more, hunits, hmore⟩ := ih h
      exact ⟨unitOfTwo lead second :: more, by simp [hunits],
        .cons (sequence_of_two hlead hsecond) hmore⟩
  | case9 position done lead hlead second third rest hsecond hthird ih =>
      obtain ⟨more, hunits, hmore⟩ := ih h
      exact ⟨unitOfThree lead second third :: more, by simp [hunits],
        .cons (sequence_of_three hlead hsecond hthird) hmore⟩
  | _ => simp at h

/-- **Units are read from exactly the bytes that store them.** -/
theorem decodeUnits_eq_ok_iff {bytes : List UInt8} {units : List UInt16} :
    decodeUnits bytes = .ok units ↔ Sequences units bytes := by
  constructor
  · intro h
    obtain ⟨more, hunits, hmore⟩ := sequences_of_unitsFrom h
    rw [hunits]
    exact hmore
  · intro h
    have hread := unitsFrom_sequences h 0 [] []
    rw [List.append_nil, List.append_nil, unitsFrom, List.reverse_reverse] at hread
    exact hread

/-- **A text is read from exactly the bytes that store its units.** -/
theorem decode_eq_ok_iff {bytes : List UInt8} {s : String} :
    decode bytes = .ok s ↔ Sequences (Utf16.units s) bytes := by
  rw [← decodeUnits_eq_ok_iff, decode]
  cases hunits : decodeUnits bytes with
  | error fault => simp
  | ok units =>
      cases hjoin : Utf16.join units with
      | error unit =>
          -- were these the units of the text, they would join
          suffices units ≠ Utf16.units s by simpa [hjoin]
          rintro rfl
          have hjoin' : Utf16.join (Utf16.units s) = .ok s.toList := Utf16.join_eq_ok_iff.mpr rfl
          rw [hjoin'] at hjoin
          cases hjoin
      | ok chars =>
          have hchars : units = Utf16.units (String.ofList chars) := by
            rw [Utf16.units, String.toList_ofList]
            exact Utf16.join_eq_ok_iff.mp hjoin
          simp only [hjoin, Except.ok.injEq]
          rw [hchars]
          constructor
          · rintro rfl
            rfl
          · exact Utf16.eq_of_units_eq

/-! ## 5. The written form -/

/-- A unit is written in one of the sequences that store it. -/
theorem sequence_encodeUnit (unit : UInt16) : Sequence unit (encodeUnit unit) := by
  have hlt : unit.toNat < 0x10000 := unit.toNat_lt
  simp only [encodeUnit]
  split_ifs with hone htwo
  · have h := Sequence.one unit.toNat hone.2
    rwa [UInt16.ofNat_toNat] at h
  · have h := Sequence.two (unit.toNat / 0x40) (unit.toNat % 0x40) (by omega) (by omega)
    rwa [Nat.div_add_mod, UInt16.ofNat_toNat] at h
  · have h := Sequence.three (unit.toNat / 0x1000) (unit.toNat / 0x40 % 0x40) (unit.toNat % 0x40)
      (by omega) (by omega) (by omega)
    have hunit : 0x1000 * (unit.toNat / 0x1000) + 0x40 * (unit.toNat / 0x40 % 0x40)
        + unit.toNat % 0x40 = unit.toNat := by omega
    rwa [hunit, UInt16.ofNat_toNat] at h

/-- A text is written in one of the forms that store it. -/
theorem sequences_encode (s : String) : Sequences (Utf16.units s) (encode s) := by
  rw [encode]
  induction Utf16.units s with
  | nil => exact .nil
  | cons unit units ih =>
      rw [List.flatMap_cons]
      exact .cons (sequence_encodeUnit unit) ih

end ClassPool.Text.Modified
