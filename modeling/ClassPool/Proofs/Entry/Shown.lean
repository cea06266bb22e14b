/-
What is printed of an entry has no hidden character in it. Numbers are printable as they stand:
digits, signs, points, and the words for what is not finite. In a quoted text a hidden character is
replaced by its number, and the six characters with a letter of their own by that letter, so what
is left is either printable or was never hidden.

The characters that end a line, wherever one might end, are all hidden. A text of an entry
therefore stays on the line that it is printed on, whatever the class file put into it.
-/
import ClassPool.Entry.Basic
import ClassPool.Proofs.Decimal.Positional
import ClassPool.Version
import Mathlib.Data.List.Basic

set_option autoImplicit false

namespace ClassPool

namespace Text

/-! ## 1. Hidden characters -/

/-- No character is one that quoted text shows by its number. -/
def Shown (chars : List Char) : Prop :=
  ∀ c ∈ chars, isHidden c = false

/-- Whether a character is one of the 95 that a plain terminal prints. -/
def isPrintable (c : Char) : Bool :=
  0x20 ≤ c.toNat && c.toNat < 0x7F

/-- The characters behind which a new line may begin, also for readers that know more of them than
the line feed. -/
def lineBreaks : List Char :=
  ['\n', '\x0b', '\x0c', '\r', '\x85', '\u2028', '\u2029']

/-- The table ascends, so up to the end of its second range the first two decide. -/
theorem isHidden_iff_of_le {c : Char} (h : c.toNat ≤ 0xA0) :
    isHidden c = true ↔ c.toNat ≤ 0x1F ∨ 0x7F ≤ c.toNat := by
  obtain ⟨rest, hrest⟩ : ∃ rest, hiddenRanges = (0x0, 0x1F) :: (0x7F, 0xA0) :: rest := ⟨_, rfl⟩
  rw [isHidden, hrest, inRanges, if_neg (Nat.not_lt_zero _), Bool.or_eq_true, decide_eq_true_iff,
    inRanges]
  by_cases hgap : c.toNat < 0x7F
  · rw [if_pos hgap, Bool.false_eq_true, or_false]
    omega
  · rw [if_neg hgap, decide_eq_true h, Bool.true_or]
    exact iff_of_true (.inr rfl) (.inr (by omega))

theorem isHidden_of_isPrintable {c : Char} (h : isPrintable c = true) : isHidden c = false := by
  unfold isPrintable at h
  rw [Bool.and_eq_true, decide_eq_true_iff, decide_eq_true_iff] at h
  rw [← Bool.not_eq_true, isHidden_iff_of_le (by omega)]
  omega

theorem isHidden_of_mem_lineBreaks {c : Char} (h : c ∈ lineBreaks) : isHidden c = true := by
  unfold lineBreaks at h
  simp only [List.mem_cons, List.not_mem_nil, or_false] at h
  rcases h with rfl | rfl | rfl | rfl | rfl | rfl | rfl
  all_goals decide +kernel

theorem isPrintable_of_isDigit {c : Char} (h : c.isDigit = true) : isPrintable c = true := by
  rw [Char.isDigit, Bool.and_eq_true, decide_eq_true_iff, decide_eq_true_iff, ge_iff_le,
    UInt32.le_iff_toNat_le, UInt32.le_iff_toNat_le] at h
  rw [isPrintable, Bool.and_eq_true, decide_eq_true_iff, decide_eq_true_iff]
  exact ⟨le_trans (by decide) h.1, lt_of_le_of_lt h.2 (by decide)⟩

theorem shown_of_printable {chars : List Char} (h : chars.all isPrintable = true) :
    Shown chars := by
  intro c hc
  exact isHidden_of_isPrintable (List.all_eq_true.mp h c hc)

theorem Shown.append {front back : List Char} (hfront : Shown front) (hback : Shown back) :
    Shown (front ++ back) := by
  intro c hc
  rcases List.mem_append.mp hc with h | h
  · exact hfront c h
  · exact hback c h

theorem Shown.append_toList {s t : String} (hs : Shown s.toList) (ht : Shown t.toList) :
    Shown (s ++ t).toList := by
  rw [String.toList_append]
  exact hs.append ht

theorem Shown.cons {c : Char} {chars : List Char} (hc : isHidden c = false) (h : Shown chars) :
    Shown (c :: chars) := by
  intro c' hc'
  rcases List.mem_cons.mp hc' with rfl | hmem
  · exact hc
  · exact h c' hmem

theorem shown_replicate {c : Char} (h : isPrintable c = true) (n : Nat) :
    Shown (List.replicate n c) := by
  intro c' hc'
  rw [List.eq_of_mem_replicate hc']
  exact isHidden_of_isPrintable h

/-- Filling up on the left leaves nothing out. -/
theorem Shown.leftpad {chars : List Char} (h : Shown chars) {fill : Char}
    (hfill : isPrintable fill = true) (width : Nat) : Shown (chars.leftpad width fill) := by
  unfold List.leftpad
  exact (shown_replicate hfill _).append h

theorem Shown.not_mem_of_lineBreak {chars : List Char} (h : Shown chars) {c : Char}
    (hc : c ∈ lineBreaks) : c ∉ chars := by
  intro hmem
  have hshown := h c hmem
  rw [isHidden_of_mem_lineBreaks hc] at hshown
  cases hshown

end Text

open Text

/-! ## 2. Numbers -/

namespace Numeral

theorem isPrintable_digitChar : ∀ d < 16, isPrintable (Nat.digitChar d) = true := by
  decide

theorem shown_toDigits {base : Nat} (hone : 1 < base) (hbase : base ≤ 16) (n : Nat) :
    Shown (Nat.toDigits base n) := by
  intro c hc
  obtain ⟨d, hd, rfl⟩ := exists_of_mem_toDigits hone hc
  exact isHidden_of_isPrintable (isPrintable_digitChar d (by omega))

theorem shown_decimal (n : Nat) : Shown (decimal n).toList := by
  unfold decimal
  rw [String.toList_ofList]
  exact shown_toDigits (by decide) (by decide) n

theorem shown_hex (n : Nat) : Shown (hex n).toList := by
  unfold hex
  rw [String.toList_ofList]
  exact shown_toDigits (by decide) (by decide) n

theorem shown_signed (i : Int) : Shown (signed i).toList := by
  unfold signed
  by_cases h : i < 0
  · rw [if_pos h]
    exact Shown.append_toList (shown_of_printable rfl) (shown_decimal _)
  · rw [if_neg h]
    exact shown_decimal _

end Numeral

theorem Decimal.shown_positional (d : Decimal) : Shown d.positional.toList := by
  intro c hc
  rcases isDigit_or_point_of_mem_positional hc with hdigit | rfl
  · exact isHidden_of_isPrintable (isPrintable_of_isDigit hdigit)
  · exact isHidden_of_isPrintable rfl

namespace Ieee

theorem shown_magnitudeText (format : Ieee) (magnitude : Nat) :
    Shown (format.magnitudeText magnitude).toList := by
  unfold magnitudeText
  by_cases hzero : magnitude = 0
  · rw [if_pos hzero]
    exact shown_of_printable rfl
  · rw [if_neg hzero]
    by_cases hinf : magnitude = format.infinity
    · rw [if_pos hinf]
      exact shown_of_printable rfl
    · rw [if_neg hinf]
      exact Decimal.shown_positional _

theorem shown_text (format : Ieee) (bits : Nat) : Shown (format.text bits).toList := by
  unfold text
  by_cases hnan : format.isNaN bits = true
  · rw [if_pos hnan]
    exact shown_of_printable rfl
  · rw [if_neg hnan]
    by_cases hneg : format.isNegative bits = true
    · rw [if_pos hneg]
      exact Shown.append_toList (shown_of_printable rfl) (shown_magnitudeText format _)
    · rw [if_neg hneg]
      exact shown_magnitudeText format _

end Ieee

/-! ## 3. Quoted text -/

namespace Text.Quoted

/-- The letters that stand for a character are printable. -/
theorem isPrintable_of_letter? {c letter : Char} (h : letter? c = some letter) :
    isPrintable letter = true := by
  unfold letter? at h
  split at h
  all_goals cases h
  all_goals rfl

/-- **A character is shown without hidden ones**: by letter, by number, or as it is. -/
theorem shown_showChar (c : Char) : Shown (showChar c) := by
  unfold showChar
  cases hletter : letter? c with
  | some letter =>
      apply shown_of_printable
      rw [List.all_cons, List.all_cons, isPrintable_of_letter? hletter]
      rfl
  | none =>
      by_cases hhidden : isHidden c = true
      · rw [if_pos hhidden]
        unfold numbered
        refine Shown.append (Shown.append ?_ (Numeral.shown_hex _)) ?_
        · exact shown_of_printable rfl
        · exact shown_of_printable rfl
      · rw [if_neg hhidden]
        intro c' hc'
        rw [List.mem_singleton.mp hc']
        exact Bool.eq_false_iff.mpr hhidden

theorem shown_quote (s : String) : Shown (quote s).toList := by
  unfold quote
  rw [String.toList_ofList]
  refine Shown.append (Shown.cons (isHidden_of_isPrintable rfl) ?_) (shown_of_printable rfl)
  intro c hc
  obtain ⟨c', -, hc'⟩ := List.mem_flatMap.mp hc
  exact shown_showChar c' c hc'

end Text.Quoted

/-! ## 4. Entries and versions -/

theorem Entry.shown_reference (index : UInt16) : Shown (reference index).toList := by
  unfold reference
  exact Shown.append_toList (shown_of_printable rfl) (Numeral.shown_decimal _)

/-- **No hidden character stands in what is printed of an entry.** -/
theorem Entry.shown_display (e : Entry) : Shown e.display.toList := by
  have hpair (word between : String) (first second : UInt16)
      (hword : word.toList.all isPrintable = true)
      (hbetween : between.toList.all isPrintable = true) :
      Shown (word ++ reference first ++ between ++ reference second).toList := by
    refine Shown.append_toList (Shown.append_toList ?_ (shown_of_printable hbetween))
      (shown_reference second)
    exact Shown.append_toList (shown_of_printable hword) (shown_reference first)
  have hnumber (word text suffix : String) (hword : word.toList.all isPrintable = true)
      (hsuffix : suffix.toList.all isPrintable = true) (htext : Shown text.toList) :
      Shown (word ++ text ++ suffix).toList :=
    Shown.append_toList (Shown.append_toList (shown_of_printable hword) htext)
      (shown_of_printable hsuffix)
  cases e with
  | utf8 text => exact Shown.append_toList (shown_of_printable rfl) (Quoted.shown_quote text)
  | integer value => exact Shown.append_toList (shown_of_printable rfl) (Numeral.shown_signed _)
  | float bits => exact hnumber "Float " _ "f" rfl rfl (Ieee.shown_text _ _)
  | long value => exact hnumber "Long " _ "l" rfl rfl (Numeral.shown_signed _)
  | double bits => exact hnumber "Double " _ "d" rfl rfl (Ieee.shown_text _ _)
  | classRef name => exact Shown.append_toList (shown_of_printable rfl) (shown_reference name)
  | stringRef text => exact Shown.append_toList (shown_of_printable rfl) (shown_reference text)
  | fieldRef owner member => exact hpair "Fieldref " "." owner member rfl rfl
  | methodRef owner member => exact hpair "Methodref " "." owner member rfl rfl
  | nameAndType name descriptor => exact hpair "NameAndType " ":" name descriptor rfl rfl

theorem Release.shown_nameOfMajor (major : UInt16) : Shown (nameOfMajor major).toList := by
  unfold nameOfMajor
  cases ofMajor? major with
  | none => exact shown_of_printable rfl
  | some release =>
      cases release
      all_goals exact shown_of_printable rfl

theorem Version.shown_display (v : Version) : Shown v.display.toList := by
  unfold display name
  refine Shown.append_toList ?_ (shown_of_printable rfl)
  refine Shown.append_toList ?_ (Numeral.shown_decimal _)
  refine Shown.append_toList ?_ (shown_of_printable rfl)
  refine Shown.append_toList ?_ (Numeral.shown_decimal _)
  exact Shown.append_toList (Release.shown_nameOfMajor _) (shown_of_printable rfl)

end ClassPool
