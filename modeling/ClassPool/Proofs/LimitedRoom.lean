/-
Writing where room is short. Entries, pools and rows of numbers are written in many small steps,
and the room may end inside any of them. Yet what they deliver is told by their bytes alone
(`Writing.Delivers`), so a sink that takes so many bytes and no more is left with exactly the
leading ones of those bytes (`Writing.CutsOff`), wherever that is.

Where room does not matter, only a text that is too long can end the writing. It does so behind its
tag, and everything in front of that tag is complete (`Pool.delivers_cases`). This failure needs no
room: a sink that is full right behind the tag reports the text, while one that is full in front of
it reports that it is full.
-/
import ClassPool.Proofs.Number
import ClassPool.Proofs.Pool.Written

set_option autoImplicit false

namespace ClassPool

open Writing

/-! ## 1. Entries and pools -/

namespace Entry

/-- An entry that fits is delivered whole, and of any other, which is a text, the tag. -/
theorem delivers_cases (e : Entry) :
    (e.Fits ∧ Delivers e.write e.record (.ok ())) ∨
      ∃ text, e = utf8 text ∧ 65535 < (Text.Modified.encode text).length ∧
        Delivers e.write [Tag.utf8.byte]
          (.error (.textTooLong (Text.Modified.encode text).length)) := by
  by_cases hfits : e.Fits
  · exact .inl ⟨hfits, delivers_write hfits⟩
  · obtain ⟨text, rfl, htext⟩ := exists_of_not_fits hfits
    exact .inr ⟨text, rfl, htext, delivers_write_tooLong htext⟩

/-- A double may just as well be written as two numbers, its high word first. -/
theorem writePayload_double (bits : UInt64) :
    (double bits).writePayload = (do
      (Number.u4 (UInt32.ofNat (bits.toNat / 2 ^ 32))).write
      (Number.u4 (UInt32.ofNat (bits.toNat % 2 ^ 32))).write) := by
  have hbits := bits.toNat_lt
  have hhigh : (UInt32.ofNat (bits.toNat / 2 ^ 32)).toNat = bits.toNat / 2 ^ 32 :=
    UInt32.toNat_ofNat_of_lt' (show _ < 2 ^ 32 by omega)
  have hlow : (UInt32.ofNat (bits.toNat % 2 ^ 32)).toNat = bits.toNat % 2 ^ 32 :=
    UInt32.toNat_ofNat_of_lt' (show _ < 2 ^ 32 by omega)
  rw [writePayload, ← words_eq, words, put_append, Number.write, Number.write, Number.encode,
    Number.encode, Number.bits, Number.bits, hhigh, hlow]
  rfl

end Entry

namespace Pool

open Entry

/-- A pool is delivered whole, or there is a first text that is too long, and the pool is delivered
up to the tag of that text. -/
theorem delivers_cases (p : Pool) :
    (AllFit p.entries ∧ Delivers p.write p.bytes (.ok ())) ∨
      ∃ before text after, p.entries = before ++ utf8 text :: after ∧ AllFit before ∧
        65535 < (Text.Modified.encode text).length ∧
        Delivers p.write
          (BigEndian.encode 2 p.count.toNat ++ (recordsOf before ++ [Tag.utf8.byte]))
          (.error (.textTooLong (Text.Modified.encode text).length)) := by
  rcases allFit_or_tooLong p.entries with hfits | ⟨before, text, after, hentries, hbefore, htext⟩
  · exact .inl ⟨hfits, delivers_write hfits⟩
  · exact .inr ⟨before, text, after, hentries, hbefore, htext,
      delivers_write_tooLong hentries hbefore htext⟩

end Pool

/-! ## 2. All that is written -/

/-- **A sink that fills up is left with exactly the leading bytes.** This holds of pools, of single
entries and of rows of numbers. Where there is no limit, rows of numbers always arrive whole, and a
pool or an entry does unless a text is too long. Then all entries in front of the first such text
have arrived whole and of the text itself only the tag has. -/
theorem writing_cutsOff :
    (∀ p : Pool, p.write.CutsOff ∧
      (Entry.AllFit p.entries ∧ p.write.run none = ⟨p.bytes, .ok ()⟩ ∨
        ∃ before text after, p.entries = before ++ .utf8 text :: after ∧ Entry.AllFit before ∧
          65535 < (Text.Modified.encode text).length ∧
          p.write.run none
            = ⟨BigEndian.encode 2 p.count.toNat ++ (Entry.recordsOf before ++ [Tag.utf8.byte]),
              .error (.textTooLong (Text.Modified.encode text).length)⟩)) ∧
    (∀ e : Entry, e.write.CutsOff ∧
      (e.Fits ∧ e.write.run none = ⟨e.record, .ok ()⟩ ∨
        ∃ text, e = .utf8 text ∧ 65535 < (Text.Modified.encode text).length ∧
          e.write.run none
            = ⟨[Tag.utf8.byte], .error (.textTooLong (Text.Modified.encode text).length)⟩)) ∧
    ∀ numbers : List Number, (Number.writeAll numbers).CutsOff ∧
      (Number.writeAll numbers).run none = ⟨Number.encodeAll numbers, .ok ()⟩ := by
  refine ⟨fun p => ?_, fun e => ?_, fun numbers => ?_⟩
  · rcases p.delivers_cases with ⟨hfits, h⟩ | ⟨before, text, after, hentries, hbefore, htext, h⟩
    · exact ⟨h.cutsOff, .inl ⟨hfits, h.run_none⟩⟩
    · exact ⟨h.cutsOff, .inr ⟨before, text, after, hentries, hbefore, htext, h.run_none⟩⟩
  · rcases e.delivers_cases with ⟨hfits, h⟩ | ⟨text, htext, hlong, h⟩
    · exact ⟨h.cutsOff, .inl ⟨hfits, h.run_none⟩⟩
    · exact ⟨h.cutsOff, .inr ⟨text, htext, hlong, h.run_none⟩⟩
  · have h := Number.delivers_writeAll numbers
    exact ⟨h.cutsOff, h.run_none⟩

end ClassPool
