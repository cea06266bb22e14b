/-
Two readings of the same bytes, and why they never give two texts. `Text.read` tries standard
UTF-8 first and falls back on modified UTF-8; `Modified.decode` knows modified UTF-8 alone. Where
bytes are no standard form the two are the same. Where they are one, the text is the one that
was written, and the only question is how far modified UTF-8 follows.

It follows through every character of one unit, because there the standard form is a sequence of
that unit. The standard form of any other character starts with a byte from `F0` on, which starts
no sequence, and no smaller character has such a byte. So modified UTF-8 reads the same text, or
stops at the first of those bytes (`decode_standardForm`).
-/
import ClassPool.Proofs.Text.Faults
import ClassPool.Proofs.Text.Forms

set_option autoImplicit false

namespace ClassPool.Text

open Modified

/-! ## 1. Behind whole sequences -/

theorem Modified.Sequences.stops {units : List UInt16} {bytes front rest : List UInt8}
    (h : Sequences units bytes) (hstops : Stops front rest) : Stops (bytes ++ front) rest := by
  induction h with
  | nil => exact hstops
  | cons hseq _ ih =>
      rw [List.append_assoc]
      exact .behind hseq ih

/-- Bytes from `F0` on start no sequence. -/
theorem ofLead?_eq_none_of_le {lead : UInt8} (h : 0xF0 ≤ lead.toNat) : Form.ofLead? lead = none := by
  unfold Form.ofLead?
  rw [if_neg (by omega), if_neg (by omega), if_neg (by omega), if_neg (by omega)]

/-! ## 2. Standard forms as modified UTF-8 -/

/-- The place of the first byte that no modified form has. -/
def firstBeyond? (bytes : List UInt8) : Option Nat :=
  bytes.findIdx? fun byte => 0xF0 ≤ byte.toNat

theorem firstBeyond?_eq_none_iff {bytes : List UInt8} :
    firstBeyond? bytes = none ↔ ∀ byte ∈ bytes, byte.toNat < 0xF0 := by
  rw [firstBeyond?, List.findIdx?_eq_none_iff]
  simp only [decide_eq_false_iff_not, Nat.not_le]

theorem firstBeyond?_append_cons {front : List UInt8} {byte : UInt8} (rest : List UInt8)
    (hfront : ∀ b ∈ front, b.toNat < 0xF0) (hbyte : 0xF0 ≤ byte.toNat) :
    firstBeyond? (front ++ byte :: rest) = some front.length := by
  rw [← firstBeyond?_eq_none_iff, firstBeyond?] at hfront
  rw [firstBeyond?, List.findIdx?_append, hfront]
  simp [List.findIdx?_cons, hbyte]

/-- **A standard form is read as its text, or up to its first byte from `F0` on.** -/
theorem decode_standardForm (s : String) :
    decode (standardForm s) = match firstBeyond? (standardForm s) with
      | none => .ok s
      | some position => .error (.unexpectedByte position) := by
  cases hfind : s.toList.find? isSupplementary with
  | none =>
      have hsmall : ∀ c ∈ s.toList, isSupplementary c = false := by
        intro c hc
        rw [← Bool.not_eq_true]
        exact List.find?_eq_none.mp hfind c hc
      have hseq : Sequences (Utf16.units s) (standardForm s) :=
        sequences_flatMap_utf8EncodeChar hsmall
      have hnone : firstBeyond? (standardForm s) = none :=
        firstBeyond?_eq_none_iff.mpr fun _ hmem => hseq.byte_lt hmem
      rw [hnone, decode_eq_ok_iff.mpr hseq]
  | some c =>
      obtain ⟨hc, before, after, hchars, hbefore⟩ := List.find?_eq_some_iff_append.mp hfind
      obtain ⟨lead, tail, hform, hlead⟩ := utf8EncodeChar_of_isSupplementary hc
      have hseq := sequences_flatMap_utf8EncodeChar fun d hd => by simpa using hbefore d hd
      -- Everything in front of the first large character is read, and its lead byte is not.
      have hsplit : standardForm s = before.flatMap String.utf8EncodeChar
          ++ lead :: (tail ++ after.flatMap String.utf8EncodeChar) := by
        rw [standardForm, hchars, List.flatMap_append, List.flatMap_cons, hform, List.cons_append]
      have hstops := hseq.stops (.atLead (tail ++ after.flatMap String.utf8EncodeChar)
        (ofLead?_eq_none_of_le hlead))
      rw [List.append_nil] at hstops
      rw [hsplit, firstBeyond?_append_cons _ (fun _ hmem => hseq.byte_lt hmem) hlead,
        decode_of_stops hstops]
      rfl

/-! ## 3. Both readings -/

theorem read_of_not_standard {bytes : List UInt8} (h : ∀ s, standardForm s ≠ bytes) :
    read bytes = decode bytes := by
  rw [read, standard?_eq_none_iff.mpr h]

theorem read_standardForm (s : String) : read (standardForm s) = .ok s :=
  read_eq_ok_iff.mpr (.standard s)

/-- Bytes that both readings know have one text. -/
theorem eq_of_read_of_decode {bytes : List UInt8} {s t : String} (hread : read bytes = .ok s)
    (hdecode : decode bytes = .ok t) : s = t := by
  cases read_eq_ok_iff.mp hread with
  | standard =>
      rw [decode_standardForm] at hdecode
      cases hfirst : firstBeyond? (standardForm s) with
      | none =>
          rw [hfirst] at hdecode
          exact Except.ok.inj hdecode
      | some position =>
          rw [hfirst] at hdecode
          cases hdecode
  | modified _ hbytes =>
      rw [decode_eq_ok_iff.mpr hbytes] at hdecode
      exact Except.ok.inj hdecode

/-- **The two readings never disagree.** The standard form of a text is read as that text, and
as modified UTF-8 either so too or up to its first byte from `F0` on. Of all other bytes both
readings say the same. -/
theorem read_agrees_with_decode (bytes : List UInt8) :
    (∀ s, standardForm s = bytes →
      read bytes = .ok s ∧
        decode bytes = match firstBeyond? bytes with
          | none => .ok s
          | some position => .error (.unexpectedByte position)) ∧
    ((∀ s, standardForm s ≠ bytes) → read bytes = decode bytes) ∧
    ∀ s t, read bytes = .ok s → decode bytes = .ok t → s = t := by
  refine ⟨?_, read_of_not_standard, fun s t => eq_of_read_of_decode⟩
  rintro s rfl
  exact ⟨read_standardForm s, decode_standardForm s⟩

/-- Four bytes of standard UTF-8 behind a letter: modified UTF-8 stops at the first of them. The
two bytes of a zero are no standard form, and both readings know them. -/
theorem read_agrees_four_bytes_and_zero :
    (read [0x41, 0xF0, 0x9F, 0x98, 0x80] = .ok "A😀" ∧
      decode [0x41, 0xF0, 0x9F, 0x98, 0x80] = .error (.unexpectedByte 1)) ∧
    read [0xC0, 0x80] = decode [0xC0, 0x80] := by
  have hstandard : standardForm "A😀" = [0x41, 0xF0, 0x9F, 0x98, 0x80] := by decide
  have hnone : ∀ s, standardForm s ≠ [0xC0, 0x80] := standard?_eq_none_iff.mp (by decide +kernel)
  obtain ⟨hfour, -⟩ := read_agrees_with_decode [0x41, 0xF0, 0x9F, 0x98, 0x80]
  obtain ⟨-, hzero, -⟩ := read_agrees_with_decode [0xC0, 0x80]
  exact ⟨hfour _ hstandard, hzero hnone⟩

end ClassPool.Text
