/-
What is written for an entry. Of all records of an entry one is written: that of `record`,
where a text stands in modified UTF-8. It is a record of the entry (`isRecord_record`), it is
as long as announced (`length_record`), and it arrives whole (`delivers_write`) unless it is
that of a text whose bytes outgrow the two bytes of their length; of such a text only the tag
arrives (`delivers_write_tooLong`).

A record that was read is the written one unless it is that of a text in another form
(`IsRecord.eq_record_iff`).

Texts are the only entries that can be too long, so an entry can be written exactly if its text,
should it have one, fits (`write_ok_iff`). How long the written form of a text is, and which of
its forms that is, comes last.
-/
import ClassPool.Proofs.Entry.Grammar
import ClassPool.Proofs.Sink
import ClassPool.Proofs.Text.Canonical

set_option autoImplicit false

namespace ClassPool.Entry

open Writing

/-! ## 1. The written record -/

/-- The payload that is written for an entry. -/
def payload : Entry → List UInt8
  | utf8 text =>
    BigEndian.encode 2 (Text.Modified.encode text).length ++ Text.Modified.encode text
  | integer value => BigEndian.encode 4 value.toUInt32.toNat
  | float bits => BigEndian.encode 4 bits.toNat
  | long value => words value.toUInt64
  | double bits => words bits
  | classRef index | stringRef index => BigEndian.encode 2 index.toNat
  | fieldRef first second | methodRef first second | nameAndType first second =>
    BigEndian.encode 2 first.toNat ++ BigEndian.encode 2 second.toNat

/-- The record that is written for an entry. -/
def record (e : Entry) : List UInt8 :=
  e.tag.byte :: e.payload

/-- An entry fits its record when the length of its text, if it has one, fits two bytes. -/
def Fits (e : Entry) : Prop :=
  ∀ text, e = utf8 text → (Text.Modified.encode text).length ≤ 0xFFFF

/-- An entry that does not fit is a text that is too long. -/
theorem exists_of_not_fits {e : Entry} (h : ¬ e.Fits) :
    ∃ text, e = utf8 text ∧ 0xFFFF < (Text.Modified.encode text).length := by
  rw [Fits] at h
  push Not at h
  exact h

/-- The written record is a record. -/
theorem isRecord_record {e : Entry} (h : e.Fits) : IsRecord e e.record := by
  refine .mk ?_
  cases e with
  | utf8 text => exact .utf8 (h text rfl) (Text.stored_encode text)
  | integer value => exact .integer value
  | float bits => exact .float bits
  | long value => exact .long value
  | double bits => exact .double bits
  | classRef name => exact .classRef name
  | stringRef text => exact .stringRef text
  | fieldRef owner member => exact .fieldRef owner member
  | methodRef owner member => exact .methodRef owner member
  | nameAndType name descriptor => exact .nameAndType name descriptor

/-- The written record is as long as announced. -/
theorem length_record (e : Entry) : e.record.length = e.encodedLength := by
  cases e with
  | utf8 text =>
      rw [record, payload, List.length_cons, List.length_append, BigEndian.length_encode,
        encodedLength]
      omega
  | _ => simp [record, payload, encodedLength, words_eq]

/-! ## 2. Writing it -/

theorem delivers_number (number : Number) : Delivers number.write number.encode (.ok ()) :=
  delivers_put number.encode

theorem delivers_tag (e : Entry) :
    Delivers (Number.u1 e.tag.byte).write [e.tag.byte] (.ok ()) := by
  have h := delivers_number (Number.u1 e.tag.byte)
  have hbyte : (Number.u1 e.tag.byte).encode = [e.tag.byte] := by
    simp [Number.encode, Number.type, Number.bits, NumberType.width, BigEndian.encode]
  rwa [hbyte] at h

theorem delivers_indices (first second : UInt16) :
    Delivers (do (Number.u2 first).write; (Number.u2 second).write)
      (BigEndian.encode 2 first.toNat ++ BigEndian.encode 2 second.toNat) (.ok ()) :=
  (delivers_number (.u2 first)).bind (delivers_number (.u2 second))

/-- A text that fits is delivered behind its length. -/
theorem delivers_writeText {text : String} (h : (Text.Modified.encode text).length ≤ 0xFFFF) :
    Delivers (writeText text) (utf8 text).payload (.ok ()) := by
  have hnum : (UInt16.ofNat (Text.Modified.encode text).length).toNat
      = (Text.Modified.encode text).length :=
    UInt16.toNat_ofNat_of_lt' (show _ < 0x10000 by omega)
  have hlength := delivers_number (.u2 (UInt16.ofNat (Text.Modified.encode text).length))
  rw [Number.encode, Number.bits, hnum] at hlength
  rw [writeText, if_pos h, payload]
  exact hlength.bind (delivers_put _)

/-- A text that does not fit fails before anything of it is delivered. -/
theorem delivers_writeText_tooLong {text : String}
    (h : 0xFFFF < (Text.Modified.encode text).length) :
    Delivers (writeText text) []
      (.error (.textTooLong (Text.Modified.encode text).length)) := by
  rw [writeText, if_neg (by omega)]
  exact delivers_throw _

theorem delivers_writePayload {e : Entry} (h : e.Fits) :
    Delivers e.writePayload e.payload (.ok ()) := by
  cases e with
  | utf8 text => exact delivers_writeText (h text rfl)
  | integer value => exact delivers_number (.int value)
  | float bits => exact delivers_number (.float bits)
  | long value =>
      rw [payload, words_eq]
      exact delivers_number (.long value)
  | double bits =>
      rw [payload, words_eq]
      exact delivers_put _
  | classRef index | stringRef index => exact delivers_number (.u2 index)
  | fieldRef first second | methodRef first second | nameAndType first second =>
      exact delivers_indices first second

/-- **The record of an entry that fits is delivered.** -/
theorem delivers_write {e : Entry} (h : e.Fits) : Delivers e.write e.record (.ok ()) :=
  (delivers_tag e).bind (delivers_writePayload h)

/-- **Of a text that does not fit only the tag is delivered.** -/
theorem delivers_write_tooLong {text : String}
    (h : 0xFFFF < (Text.Modified.encode text).length) :
    Delivers (utf8 text).write [Tag.utf8.byte]
      (.error (.textTooLong (Text.Modified.encode text).length)) :=
  (delivers_tag (utf8 text)).bind (delivers_writeText_tooLong h)

/-! ## 3. Records that are the written one -/

/-- Only the record of a text can differ from the written one, and only in the bytes of the
text, which stand behind the tag and the two bytes of the length. -/
theorem IsRecord.eq_record_iff {e : Entry} {bytes : List UInt8} (h : IsRecord e bytes) :
    bytes = e.record ↔ ∀ text, e = utf8 text → bytes.drop 3 = Text.Modified.encode text := by
  have hdrop : ∀ (byte : UInt8) (stored : List UInt8),
      (byte :: (BigEndian.encode 2 stored.length ++ stored)).drop 3 = stored := by
    intro byte stored
    rw [List.drop_succ_cons]
    exact List.drop_left' (BigEndian.length_encode 2 stored.length)
  -- Every other kind has but one payload for its value.
  obtain ⟨hpayload⟩ := h
  cases hpayload with
  | @utf8 text stored hlen hstored =>
      simp only [utf8.injEq, forall_eq']
      rw [hdrop, record, payload]
      constructor
      · intro heq
        have htext := congrArg (List.drop 3) heq
        rwa [hdrop, hdrop] at htext
      · rintro rfl
        rfl
  | _ => simp [record, payload]

/-! ## 4. Entries that can be written -/

/-- An entry can be written exactly if it fits its record. -/
theorem write_ok_iff (e : Entry) : (e.write.run none).outcome = .ok () ↔ e.Fits := by
  constructor
  · intro hok text htext
    apply Nat.le_of_not_lt
    intro hlong
    subst htext
    rw [(delivers_write_tooLong hlong).run_none] at hok
    cases hok
  · intro hfits
    rw [(delivers_write hfits).run_none]

/-- **Texts are written canonically, and in a known length.** What is written for texts is exactly
what comes apart into canonical sequences, so a text is written as the bytes that it was read from
if and only if these do. Written texts keep clear of zero bytes and of those from `F0` on, agree
with standard UTF-8 where they hold neither zeros nor supplementary characters, and are otherwise
longer by one or two bytes for each. -/
theorem writes_canonically :
    (∀ bytes, (∃ s, Text.Modified.encode s = bytes) ↔
      ∃ s pieces, Text.Modified.decode bytes = .ok s ∧ Text.Modified.Splits bytes pieces ∧
        ∀ piece ∈ pieces, Text.Modified.Canonical piece.1 piece.2) ∧
    (∀ bytes s, Text.Modified.decode bytes = .ok s →
      (∃! pieces, Text.Modified.Splits bytes pieces) ∧
        ∀ pieces, Text.Modified.Splits bytes pieces →
          (Text.Modified.encode s = bytes ↔
            ∀ piece ∈ pieces, Text.Modified.Canonical piece.1 piece.2)) ∧
    ∀ s : String,
      (∀ byte ∈ Text.Modified.encode s, byte ≠ 0 ∧ byte.toNat < 0xF0) ∧
      (Text.Modified.encode s = Text.standardForm s ↔
        ∀ c ∈ s.toList, c ≠ '\x00' ∧ Text.isSupplementary c = false) ∧
      (Text.Modified.encode s).length = (Text.standardForm s).length + s.toList.count '\x00'
        + 2 * s.toList.countP Text.isSupplementary ∧
      (((utf8 s).write.run none).outcome = .ok () ↔
        (Text.standardForm s).length + s.toList.count '\x00'
          + 2 * s.toList.countP Text.isSupplementary ≤ 65535) := by
  refine ⟨fun _ => Text.Modified.exists_encode_eq_iff, ?_, ?_⟩
  · intro bytes s hdecode
    exact ⟨Text.Modified.existsUnique_splits (Text.Modified.decode_eq_ok_iff.mp hdecode),
      fun _ => Text.Modified.encode_eq_iff_canonical hdecode⟩
  · intro s
    refine ⟨fun _ => Text.Modified.byte_of_mem_encode, Text.Modified.encode_eq_standardForm_iff,
      Text.Modified.length_encode s, ?_⟩
    rw [write_ok_iff, Fits, ← Text.Modified.length_encode]
    simp only [utf8.injEq, forall_eq']

/-- A zero that was read from a single byte is written in two, which is its canonical form. -/
theorem writes_canonically_zero :
    Text.Modified.encode "A\x00" ≠ [0x41, 0x00] ∧
      Text.Modified.encode "A\x00" = [0x41, 0xC0, 0x80] ∧
      ((utf8 "A\x00").write.run none).outcome = .ok () := by
  have hsingle : Text.Modified.Splits [0x41, 0x00] [(0x41, [0x41]), (0, [0x00])] :=
    .cons (.one 0x41 (by decide)) (.cons (.one 0 (by decide)) .nil)
  have hdouble : Text.Modified.Splits [0x41, 0xC0, 0x80] [(0x41, [0x41]), (0, [0xC0, 0x80])] :=
    .cons (.one 0x41 (by decide)) (.cons (.two 0 0 (by decide) (by decide)) .nil)
  obtain ⟨-, hread, hwritten⟩ := writes_canonically
  refine ⟨?_, ?_, ?_⟩
  · rw [Ne, (hread [0x41, 0x00] "A\x00" rfl).2 _ hsingle]
    intro hcanonical
    have hzero := (hcanonical (0, [0x00]) (by decide)).one rfl
    exact absurd hzero.1 (by decide)
  · rw [(hread [0x41, 0xC0, 0x80] "A\x00" rfl).2 _ hdouble]
    simp only [List.forall_mem_cons, List.not_mem_nil, false_implies, implies_true, and_true]
    exact ⟨Text.Modified.canonical_one (by decide), Text.Modified.canonical_two (by decide)⟩
  · obtain ⟨-, -, -, hfits⟩ := hwritten "A\x00"
    exact hfits.mpr (by decide)

end ClassPool.Entry
