/-
What is written for a pool. It is the count and behind it the record of every entry
(`Pool.bytes`), and it arrives whole when every text fits the two bytes of its length
(`Pool.delivers_write`). The first text that does not fit ends the writing behind its tag
(`Pool.delivers_write_tooLong`). As entries either all fit or have a first that does not,
these two cases say when a pool can be written (`Pool.write_ok_iff`).
-/
import ClassPool.Pool.Encode
import ClassPool.Proofs.Entry.Written
import ClassPool.Proofs.Pool.Records

set_option autoImplicit false

namespace ClassPool

open Writing

/-! ## 1. Entries in a row -/

namespace Entry

/-- All texts among entries fit the two bytes of their length. -/
def AllFit (entries : List Entry) : Prop :=
  ∀ text, utf8 text ∈ entries → (Text.Modified.encode text).length ≤ 0xFFFF

/-- The records that are written for entries, one behind the other. -/
def recordsOf (entries : List Entry) : List UInt8 :=
  entries.flatMap record

@[simp] theorem recordsOf_nil : recordsOf [] = [] := rfl

@[simp] theorem recordsOf_cons (e : Entry) (rest : List Entry) :
    recordsOf (e :: rest) = e.record ++ recordsOf rest := by
  simp [recordsOf]

theorem allFit_nil : AllFit [] := by
  intro text hmem
  cases hmem

theorem allFit_cons_iff {e : Entry} {rest : List Entry} :
    AllFit (e :: rest) ↔ e.Fits ∧ AllFit rest := by
  constructor
  · intro h
    refine ⟨fun text htext => h text ?_, fun text hmem => h text (List.mem_cons_of_mem e hmem)⟩
    rw [htext]
    exact List.mem_cons_self
  · rintro ⟨hfirst, hrest⟩ text hmem
    rcases List.mem_cons.mp hmem with hhead | htail
    · exact hfirst text hhead.symm
    · exact hrest text htail

/-- Entries all fit, or there is a first text that does not. -/
theorem allFit_or_tooLong (entries : List Entry) :
    AllFit entries ∨ ∃ before text after, entries = before ++ utf8 text :: after ∧
      AllFit before ∧ 0xFFFF < (Text.Modified.encode text).length := by
  induction entries with
  | nil => exact .inl allFit_nil
  | cons e rest ih =>
      by_cases hfits : e.Fits
      · rcases ih with hrest | ⟨before, text, after, rfl, hbefore, htext⟩
        · exact .inl (allFit_cons_iff.mpr ⟨hfits, hrest⟩)
        · exact .inr ⟨e :: before, text, after, rfl, allFit_cons_iff.mpr ⟨hfits, hbefore⟩, htext⟩
      · obtain ⟨text, rfl, htext⟩ := exists_of_not_fits hfits
        exact .inr ⟨[], text, rest, rfl, allFit_nil, htext⟩

/-- The total of a quantity is the sum of its values. -/
theorem total_eq_sum (quantity : Entry → Nat) (entries : List Entry) :
    total quantity entries = (entries.map quantity).sum := by
  induction entries with
  | nil => rfl
  | cons e rest ih => rw [total_cons, ih, List.map_cons, List.sum_cons]

theorem length_recordsOf (entries : List Entry) :
    (recordsOf entries).length = Pool.recordsLength entries := by
  induction entries with
  | nil => rfl
  | cons e rest ih =>
      rw [recordsOf_cons, List.length_append, length_record, ih, Pool.recordsLength_cons]

/-- **Entries that all fit are delivered** record by record. -/
theorem delivers_writeAll {entries : List Entry} (h : AllFit entries) :
    Delivers (writeAll entries) (recordsOf entries) (.ok ()) := by
  induction entries with
  | nil => exact delivers_pure
  | cons e rest ih =>
      obtain ⟨hfirst, hrest⟩ := allFit_cons_iff.mp h
      rw [recordsOf_cons, writeAll]
      exact (delivers_write hfirst).bind (ih hrest)

/-- **The first text that does not fit ends the writing** behind its tag. -/
theorem delivers_writeAll_tooLong {before after : List Entry} {text : String}
    (hbefore : AllFit before) (htext : 0xFFFF < (Text.Modified.encode text).length) :
    Delivers (writeAll (before ++ utf8 text :: after)) (recordsOf before ++ [Tag.utf8.byte])
      (.error (.textTooLong (Text.Modified.encode text).length)) := by
  induction before with
  | nil => exact (delivers_write_tooLong htext).bind_error
  | cons e before ih =>
      obtain ⟨hfirst, hrest⟩ := allFit_cons_iff.mp hbefore
      rw [recordsOf_cons, List.append_assoc, List.cons_append, writeAll]
      exact (delivers_write hfirst).bind (ih hrest)

end Entry

namespace Pool

open Entry

/-! ## 2. Pools -/

/-- What is written for a pool whose texts all fit. -/
def bytes (p : Pool) : List UInt8 :=
  BigEndian.encode 2 p.count.toNat ++ recordsOf p.entries

theorem encodedLength_eq_sum (entries : List Entry) :
    encodedLength entries = 2 + (entries.map Entry.encodedLength).sum := by
  rw [encodedLength, recordsLength, total_eq_sum]

theorem length_bytes (p : Pool) : p.bytes.length = encodedLength p.entries := by
  rw [bytes, List.length_append, BigEndian.length_encode, length_recordsOf, encodedLength]

/-- **A pool whose texts all fit is delivered.** -/
theorem delivers_write {p : Pool} (h : AllFit p.entries) :
    Delivers p.write p.bytes (.ok ()) :=
  (delivers_number (.u2 p.count)).bind (delivers_writeAll h)

/-- **Of any other pool** the records in front of the first text that does not fit are
delivered, and the tag of that text. -/
theorem delivers_write_tooLong {p : Pool} {before after : List Entry} {text : String}
    (hentries : p.entries = before ++ utf8 text :: after) (hbefore : AllFit before)
    (htext : 0xFFFF < (Text.Modified.encode text).length) :
    Delivers p.write
      (BigEndian.encode 2 p.count.toNat ++ (recordsOf before ++ [Tag.utf8.byte]))
      (.error (.textTooLong (Text.Modified.encode text).length)) := by
  rw [write, hentries]
  exact (delivers_number (.u2 p.count)).bind (delivers_writeAll_tooLong hbefore htext)

/-- A pool can be written exactly when its texts all fit. -/
theorem write_ok_iff (p : Pool) :
    (p.write.run none).outcome = .ok () ↔ AllFit p.entries := by
  constructor
  · intro hok
    -- A text that does not fit would have ended the writing.
    rcases allFit_or_tooLong p.entries with hfits | ⟨before, text, after, hentries, hbefore, htext⟩
    · exact hfits
    · rw [(delivers_write_tooLong hentries hbefore htext).run_none] at hok
      cases hok
  · intro hfits
    rw [(delivers_write hfits).run_none]

end Pool

end ClassPool
