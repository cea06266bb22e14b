/-
Bytes that are no modified UTF-8, and where that shows. A byte string is well-formed if it is
sequences one after the other, and completable if further bytes can make it so. Reading goes on
as long as what was read is completable and stops at the first byte that ends this, which is the
byte that the error names. If there is no such byte but the end comes inside a sequence, the
character at the end is partial.

`Stops` says where that is: behind whole sequences, inside of one, in front of a byte that cannot
go on or at the end. Every byte string that is not well-formed stops somewhere
(`wellFormed_or_stops`), and reading reports the place (`decodeUnits_of_stops`). What was read up
to there is completable, and with the byte behind it is not, so the place can be told from the
grammar alone (`decode_eq_unexpectedByte_iff`).

Surrogates come last. Only the units of well-formed bytes are joined, so what is wrong with the
bytes hides what is wrong with the units.
-/
import ClassPool.Proofs.Text.Sequences

set_option autoImplicit false

namespace ClassPool.Text.Modified

/-! ## 1. Well-formed and completable bytes -/

/-- Bytes that store some units. -/
def WellFormed (bytes : List UInt8) : Prop :=
  ∃ units, Sequences units bytes

/-- Bytes with which some well-formed bytes begin. -/
def Completable (bytes : List UInt8) : Prop :=
  ∃ rest, WellFormed (bytes ++ rest)

theorem WellFormed.completable {bytes : List UInt8} (h : WellFormed bytes) : Completable bytes := by
  refine ⟨[], ?_⟩
  rw [List.append_nil]
  exact h

theorem Completable.of_prefix {front bytes : List UInt8} (h : Completable bytes)
    (hfront : front <+: bytes) : Completable front := by
  obtain ⟨back, rfl⟩ := hfront
  obtain ⟨rest, hwhole⟩ := h
  refine ⟨back ++ rest, ?_⟩
  rw [← List.append_assoc]
  exact hwhole

theorem Completable.behind {unit : UInt16} {bytes rest : List UInt8} (hseq : Sequence unit bytes)
    (h : Completable rest) : Completable (bytes ++ rest) := by
  obtain ⟨more, units, hwhole⟩ := h
  refine ⟨more, unit :: units, ?_⟩
  rw [List.append_assoc]
  exact .cons hseq hwhole

/-! ## 2. Where reading stops -/

/-- The beginning of a sequence that more bytes belong to. -/
inductive Partial : List UInt8 → Prop where
  | lead {lead : UInt8}
      (hlead : Form.ofLead? lead = some .two ∨ Form.ofLead? lead = some .three) : Partial [lead]
  | second {lead second : UInt8} (hlead : Form.ofLead? lead = some .three)
      (hsecond : isContinuation second = true) : Partial [lead, second]

/-- Bytes at which reading stops, taken apart where it stops: whole sequences and the beginning
of one more, and behind them either nothing or a byte that cannot go on there. -/
inductive Stops : List UInt8 → List UInt8 → Prop where
  | atEnd {front : List UInt8} (h : Partial front) : Stops front []
  | atLead {byte : UInt8} (rest : List UInt8) (hbyte : Form.ofLead? byte = none) :
      Stops [] (byte :: rest)
  | atContinuation {front : List UInt8} {byte : UInt8} (rest : List UInt8) (h : Partial front)
      (hbyte : isContinuation byte = false) : Stops front (byte :: rest)
  | behind {unit : UInt16} {bytes front rest : List UInt8} (hseq : Sequence unit bytes)
      (h : Stops front rest) : Stops (bytes ++ front) rest

/-- What is wrong with bytes at a place where reading stops. -/
def faultAt (position : Nat) : List UInt8 → Malformed
  | [] => .partialCharacter
  | _ :: _ => .unexpectedByte position

theorem Partial.completable {front : List UInt8} (h : Partial front) : Completable front := by
  -- `80` continues every sequence.
  have hcont : isContinuation 0x80 = true := by decide
  have hwhole : ∀ {unit : UInt16} {more : List UInt8}, Sequence unit (front ++ more) →
      Completable front := by
    intro unit more hseq
    refine ⟨more, [unit], ?_⟩
    rw [← List.append_nil (front ++ more)]
    exact .cons hseq .nil
  cases h with
  | lead hlead =>
      rcases hlead with htwo | hthree
      · exact hwhole (sequence_of_two htwo hcont)
      · exact hwhole (sequence_of_three hthree hcont hcont)
  | second hlead hsecond => exact hwhole (sequence_of_three hlead hsecond hcont)

theorem Stops.completable {front rest : List UInt8} (h : Stops front rest) :
    Completable front := by
  induction h with
  | atEnd h => exact h.completable
  | atLead => exact WellFormed.completable ⟨[], .nil⟩
  | atContinuation _ h => exact h.completable
  | behind hseq _ ih => exact ih.behind hseq

/-- What follows the byte that cannot go on does not matter. -/
theorem Stops.replace_rest {front rest : List UInt8} {byte : UInt8}
    (h : Stops front (byte :: rest)) (more : List UInt8) : Stops front (byte :: more) := by
  -- Only the constructors that stop in front of a byte are left, and each holds of any rest.
  generalize hleft : byte :: rest = left at h
  induction h with
  | atEnd => cases hleft
  | atLead _ hbyte =>
      cases hleft
      exact .atLead more hbyte
  | atContinuation _ h hbyte =>
      cases hleft
      exact .atContinuation more h hbyte
  | behind hseq _ ih => exact .behind hseq (ih hleft)

/-- Behind a whole sequence bytes are well-formed or stop as they would alone. -/
theorem wellFormed_or_stops_behind {unit : UInt16} {bytes rest : List UInt8}
    (hseq : Sequence unit bytes)
    (h : WellFormed rest ∨ ∃ front back, rest = front ++ back ∧ Stops front back) :
    WellFormed (bytes ++ rest) ∨
      ∃ front back, bytes ++ rest = front ++ back ∧ Stops front back := by
  rcases h with ⟨units, hunits⟩ | ⟨front, back, rfl, hstops⟩
  · exact .inl ⟨unit :: units, .cons hseq hunits⟩
  · exact .inr ⟨bytes ++ front, back, (List.append_assoc _ _ _).symm, .behind hseq hstops⟩

/-- **Every byte string is well-formed or stops somewhere.** -/
theorem wellFormed_or_stops (bytes : List UInt8) :
    WellFormed bytes ∨ ∃ front rest, bytes = front ++ rest ∧ Stops front rest := by
  -- The cases are those of the reader, but all they are asked for is the shape of the bytes.
  fun_induction unitsFrom 0 [] bytes with
  | case1 => exact .inl ⟨[], .nil⟩
  | case2 _ _ lead rest hlead ih => exact wellFormed_or_stops_behind (sequence_of_one hlead) ih
  | case3 _ _ lead hlead => exact .inr ⟨[lead], [], rfl, .atEnd (.lead (.inl hlead))⟩
  | case4 _ _ lead hlead second rest hsecond ih =>
      exact wellFormed_or_stops_behind (sequence_of_two hlead hsecond) ih
  | case5 _ _ lead hlead second rest hsecond =>
      rw [Bool.not_eq_true] at hsecond
      exact .inr ⟨[lead], second :: rest, rfl, .atContinuation rest (.lead (.inl hlead)) hsecond⟩
  | case6 _ _ lead hlead => exact .inr ⟨[lead], [], rfl, .atEnd (.lead (.inr hlead))⟩
  | case7 _ _ lead hlead second hsecond =>
      exact .inr ⟨[lead, second], [], rfl, .atEnd (.second hlead hsecond)⟩
  | case8 _ _ lead hlead second hsecond =>
      rw [Bool.not_eq_true] at hsecond
      exact .inr ⟨[lead], [second], rfl, .atContinuation [] (.lead (.inr hlead)) hsecond⟩
  | case9 _ _ lead hlead second third rest hsecond hthird ih =>
      exact wellFormed_or_stops_behind (sequence_of_three hlead hsecond hthird) ih
  | case10 _ _ lead hlead second third rest hsecond hthird =>
      rw [Bool.not_eq_true] at hthird
      exact .inr ⟨[lead, second], third :: rest, rfl,
        .atContinuation rest (.second hlead hsecond) hthird⟩
  | case11 _ _ lead hlead second third rest hsecond =>
      rw [Bool.not_eq_true] at hsecond
      exact .inr ⟨[lead], second :: third :: rest, rfl,
        .atContinuation (third :: rest) (.lead (.inr hlead)) hsecond⟩
  | case12 _ _ lead rest hlead => exact .inr ⟨[], lead :: rest, rfl, .atLead rest hlead⟩

/-! ## 3. What reading reports -/

theorem unitsFrom_of_partial {front : List UInt8} (h : Partial front) (position : Nat)
    (done : List UInt16) : unitsFrom position done front = .error .partialCharacter := by
  cases h with
  | lead hlead => rcases hlead with htwo | hthree <;> simp [unitsFrom, *]
  | second hlead hsecond => simp [unitsFrom, hlead, hsecond]

theorem unitsFrom_of_partial_append {front : List UInt8} (h : Partial front) {byte : UInt8}
    (hbyte : isContinuation byte = false) (position : Nat) (done : List UInt16)
    (rest : List UInt8) :
    unitsFrom position done (front ++ byte :: rest)
      = .error (.unexpectedByte (position + front.length)) := by
  cases h with
  | lead hlead =>
      rcases hlead with htwo | hthree
      · simp [unitsFrom, htwo, hbyte]
      · cases rest <;> simp [unitsFrom, hthree, hbyte]
  | second hlead hsecond => simp [unitsFrom, hlead, hsecond, hbyte]

theorem unitsFrom_of_stops {front rest : List UInt8} (h : Stops front rest) (position : Nat)
    (done : List UInt16) :
    unitsFrom position done (front ++ rest) = .error (faultAt (position + front.length) rest) := by
  induction h generalizing position done with
  | atEnd h =>
      rw [List.append_nil, unitsFrom_of_partial h, faultAt]
  | atLead rest hbyte =>
      rw [List.nil_append, unitsFrom.eq_def]
      simp only [hbyte]
      rfl
  | atContinuation rest h hbyte => exact unitsFrom_of_partial_append h hbyte position done rest
  | behind hseq _ ih =>
      rw [List.append_assoc, unitsFrom_sequence hseq, ih, List.length_append, Nat.add_assoc]

/-- **Reading reports the place where it stops.** -/
theorem decodeUnits_of_stops {front rest : List UInt8} (h : Stops front rest) :
    decodeUnits (front ++ rest) = .error (faultAt front.length rest) := by
  rw [decodeUnits, unitsFrom_of_stops h, Nat.zero_add]

theorem decode_of_stops {front rest : List UInt8} (h : Stops front rest) :
    decode (front ++ rest) = .error (faultAt front.length rest) := by
  rw [decode, decodeUnits_of_stops h]

theorem Stops.not_wellFormed {front rest : List UInt8} (h : Stops front rest) :
    ¬ WellFormed (front ++ rest) := by
  rintro ⟨units, hunits⟩
  have hread := decodeUnits_of_stops h
  rw [decodeUnits_eq_ok_iff.mpr hunits] at hread
  cases hread

/-- With the byte that cannot go on, nothing completes what was read. -/
theorem Stops.not_completable {front rest : List UInt8} {byte : UInt8}
    (h : Stops front (byte :: rest)) : ¬ Completable (front ++ [byte]) := by
  rintro ⟨more, hwhole⟩
  rw [List.append_assoc, List.singleton_append] at hwhole
  exact (h.replace_rest more).not_wellFormed hwhole

/-- Of well-formed bytes only the units can be wrong. -/
theorem decode_of_sequences {units : List UInt16} {bytes : List UInt8}
    (h : Sequences units bytes) :
    decode bytes = ((Utf16.join units).mapError Malformed.unpairedSurrogate).map String.ofList := by
  rw [decode, decodeUnits_eq_ok_iff.mpr h]
  dsimp only
  cases Utf16.join units with
  | ok chars => rfl
  | error unit => rfl

theorem WellFormed.decode_cases {bytes : List UInt8} (h : WellFormed bytes) :
    (∃ s, decode bytes = .ok s) ∨ ∃ unit, decode bytes = .error (.unpairedSurrogate unit) := by
  obtain ⟨units, hunits⟩ := h
  rw [decode_of_sequences hunits]
  cases Utf16.join units with
  | ok chars => exact .inl ⟨_, rfl⟩
  | error unit => exact .inr ⟨unit, rfl⟩

/-! ## 4. The place, told from the grammar -/

theorem Stops.completable_take_iff {front rest : List UInt8} {byte : UInt8}
    (h : Stops front (byte :: rest)) {n : Nat} :
    Completable ((front ++ byte :: rest).take n) ↔ n ≤ front.length := by
  constructor
  · intro htake
    apply Nat.le_of_not_lt
    intro hlong
    have hprefix : front ++ [byte] <+: (front ++ byte :: rest).take n := by
      rw [List.prefix_take_iff, List.length_append, List.length_singleton]
      exact ⟨by simp, by omega⟩
    exact h.not_completable (htake.of_prefix hprefix)
  · intro hshort
    rw [List.take_append_of_le_length hshort]
    exact h.completable.of_prefix (List.take_prefix n front)

/-- **A byte is unexpected exactly if what was read can be completed without it and not with
it.** -/
theorem decode_eq_unexpectedByte_iff {bytes : List UInt8} {position : Nat} :
    decode bytes = .error (.unexpectedByte position) ↔
      Completable (bytes.take position) ∧ ¬ Completable (bytes.take (position + 1)) := by
  have hnone : Completable bytes → Completable (bytes.take (position + 1)) :=
    fun h => h.of_prefix (List.take_prefix (position + 1) bytes)
  rcases wellFormed_or_stops bytes with hwhole | ⟨front, rest, rfl, hstops⟩
  · have htake := hnone hwhole.completable
    rcases hwhole.decode_cases with ⟨s, hs⟩ | ⟨unit, hunit⟩
    · simp [hs, htake]
    · simp [hunit, htake]
  · rw [decode_of_stops hstops]
    cases rest with
    | nil =>
        have hcompletable := hstops.completable
        rw [List.append_nil] at hnone ⊢
        simp [faultAt, hnone hcompletable]
    | cons byte rest =>
        rw [hstops.completable_take_iff, hstops.completable_take_iff, faultAt,
          Except.error.injEq, Malformed.unexpectedByte.injEq]
        omega

/-- **The character at the end is partial exactly if the bytes are not well-formed but can still
be completed.** -/
theorem decode_eq_partialCharacter_iff {bytes : List UInt8} :
    decode bytes = .error .partialCharacter ↔ Completable bytes ∧ ¬ WellFormed bytes := by
  rcases wellFormed_or_stops bytes with hwhole | ⟨front, rest, rfl, hstops⟩
  · rcases hwhole.decode_cases with ⟨s, hs⟩ | ⟨unit, hunit⟩
    · simp [hs, hwhole]
    · simp [hunit, hwhole]
  · rw [decode_of_stops hstops]
    simp only [hstops.not_wellFormed, not_false_eq_true, and_true]
    cases rest with
    | nil =>
        rw [List.append_nil]
        exact ⟨fun _ => hstops.completable, fun _ => rfl⟩
    | cons byte rest =>
        have hprefix : front ++ [byte] <+: front ++ byte :: rest := by simp
        constructor
        · rintro ⟨⟩
        · intro hcompletable
          exact absurd (hcompletable.of_prefix hprefix) hstops.not_completable

/-- **Reading is what the grammar says it is.** A byte is reported where it ends what can be
completed, a partial character where the end does, and only well-formed bytes are judged by their
units: they are read if every surrogate has a partner, and otherwise the first that has none is
reported. -/
theorem decode_by_grammar (bytes : List UInt8) :
    (∀ position, decode bytes = .error (.unexpectedByte position) ↔
      Completable (bytes.take position) ∧ ¬ Completable (bytes.take (position + 1))) ∧
    (decode bytes = .error .partialCharacter ↔ Completable bytes ∧ ¬ WellFormed bytes) ∧
    ∀ units, Sequences units bytes →
      (Utf16.AllPaired units → ∃ s, Utf16.units s = units ∧ decode bytes = .ok s) ∧
      (¬ Utf16.AllPaired units →
        ∃ unit, Utf16.FirstUnpaired units unit ∧
          decode bytes = .error (.unpairedSurrogate unit)) := by
  refine ⟨fun _ => decode_eq_unexpectedByte_iff, decode_eq_partialCharacter_iff, ?_⟩
  intro units hunits
  rw [decode_of_sequences hunits, ← Utf16.exists_join_iff]
  cases hjoin : Utf16.join units with
  | ok chars =>
      have hchars : Utf16.units (String.ofList chars) = units := by
        rw [Utf16.units, String.toList_ofList, Utf16.join_eq_ok_iff.mp hjoin]
      exact ⟨fun _ => ⟨_, hchars, rfl⟩, fun h => absurd ⟨chars, rfl⟩ h⟩
  | error unit =>
      refine ⟨?_, fun _ => ⟨unit, Utf16.firstUnpaired_of_join hjoin, rfl⟩⟩
      rintro ⟨chars, ⟨⟩⟩

/-- A pair is read. Behind it stands a low surrogate that looks like its second half but has no
partner. -/
theorem decode_by_grammar_low_behind_pair :
    (∃ s, Utf16.units s = [0xD83D, 0xDE00] ∧
      decode [0xED, 0xA0, 0xBD, 0xED, 0xB8, 0x80] = .ok s) ∧
    ∃ unit, Utf16.FirstUnpaired [0xD83D, 0xDE00, 0xDE01] unit ∧
      decode [0xED, 0xA0, 0xBD, 0xED, 0xB8, 0x80, 0xED, 0xB8, 0x81]
        = .error (.unpairedSurrogate unit) := by
  have hpair : Sequences [0xD83D, 0xDE00] [0xED, 0xA0, 0xBD, 0xED, 0xB8, 0x80] :=
    decodeUnits_eq_ok_iff.mp rfl
  have hlow : Sequences [0xD83D, 0xDE00, 0xDE01]
      [0xED, 0xA0, 0xBD, 0xED, 0xB8, 0x80, 0xED, 0xB8, 0x81] :=
    decodeUnits_eq_ok_iff.mp rfl
  have hjoin : Utf16.join [0xD83D, 0xDE00] = .ok [Char.ofNat 0x1F600] := rfl
  obtain ⟨-, -, hread⟩ := decode_by_grammar [0xED, 0xA0, 0xBD, 0xED, 0xB8, 0x80]
  obtain ⟨-, -, hreport⟩ :=
    decode_by_grammar [0xED, 0xA0, 0xBD, 0xED, 0xB8, 0x80, 0xED, 0xB8, 0x81]
  refine ⟨(hread _ hpair).1 (Utf16.allPaired_of_join hjoin), (hreport _ hlow).2 ?_⟩
  rw [← Utf16.exists_join_iff]
  rintro ⟨chars, ⟨⟩⟩

end ClassPool.Text.Modified
