/-
Floats can be read off their text. Positional notation names a decimal by its value: the digits up
to the point are the whole part and those behind it the fraction, whatever zeros were added or left
out (`read_positional`). As no decimal rounds to two floats, the text of a magnitude is that of no
other (`magnitudeText_injective`), and as signs and words are no digits, the text of a float is that
of no other either. Only the NaNs have one text between them (`text_eq_text_iff`).
-/
import ClassPool.Decimal.Positional
import ClassPool.Proofs.Decimal.Shortest
import ClassPool.Proofs.Numeral
import Mathlib.Data.List.TakeWhile

set_option autoImplicit false

namespace ClassPool

namespace Decimal

/-! ## 1. Reading positional notation -/

/-- The number that digits with at most one point among them stand for. -/
def read (chars : List Char) : ℚ :=
  let whole := chars.takeWhile (· != '.')
  let fraction := (chars.dropWhile (· != '.')).tail
  Nat.ofDigitChars 10 whole 0 + Nat.ofDigitChars 10 fraction 0 / 10 ^ fraction.length

theorem ne_point_of_not_mem {whole : List Char} (h : '.' ∉ whole) :
    ∀ c ∈ whole, (c != '.') = true := by
  intro c hc
  rw [bne_iff_ne]
  rintro rfl
  exact h hc

theorem read_whole {whole : List Char} (h : '.' ∉ whole) :
    read whole = Nat.ofDigitChars 10 whole 0 := by
  have hall := ne_point_of_not_mem h
  have htake : whole.takeWhile (· != '.') = whole := by
    rw [List.takeWhile_eq_self_iff]
    exact hall
  have hdrop : whole.dropWhile (· != '.') = [] := by
    rw [List.dropWhile_eq_nil_iff]
    exact hall
  rw [read, htake, hdrop]
  simp

theorem read_point {whole : List Char} (h : '.' ∉ whole) (fraction : List Char) :
    read (whole ++ '.' :: fraction)
      = Nat.ofDigitChars 10 whole 0
        + Nat.ofDigitChars 10 fraction 0 / 10 ^ fraction.length := by
  have hall := ne_point_of_not_mem h
  rw [read, List.takeWhile_append_of_pos hall, List.dropWhile_append_of_pos hall,
    List.takeWhile_cons_of_neg (by decide), List.dropWhile_cons_of_neg (by decide),
    List.append_nil, List.tail_cons]

/-! ## 2. Fractions -/

/-- The digits of a fraction, with the zeros at its end put back, are its places. -/
theorem exists_fractionDigits_append (places fraction : Nat) :
    ∃ zeros, fractionDigits places fraction ++ List.replicate zeros '0'
      = (Nat.toDigits 10 fraction).leftpad places '0' := by
  generalize hdigits : (Nat.toDigits 10 fraction).leftpad places '0' = digits
  refine ⟨(digits.reverse.takeWhile (· == '0')).length, ?_⟩
  have hzeros : digits.reverse.takeWhile (· == '0')
      = List.replicate (digits.reverse.takeWhile (· == '0')).length '0' := by
    rw [List.eq_replicate_iff]
    refine ⟨rfl, fun c hc => ?_⟩
    exact beq_iff_eq.mp (List.mem_takeWhile_imp (p := fun a : Char => a == '0') hc)
  rw [fractionDigits, hdigits, ← List.reverse_replicate, ← hzeros, ← List.reverse_append,
    List.takeWhile_append_dropWhile, List.reverse_reverse]

theorem ofDigitChars_leftpad (places fraction : Nat) :
    Nat.ofDigitChars 10 ((Nat.toDigits 10 fraction).leftpad places '0') 0 = fraction := by
  rw [List.leftpad, Nat.ofDigitChars_append, Nat.ofDigitChars_replicate_zero, Nat.mul_zero,
    Nat.ofDigitChars_ten_toDigits]

/-- **The digits of a fraction stand for it**, without the zeros at its end as well as with them. -/
theorem ofDigitChars_fractionDigits {places fraction : Nat} (hplaces : 0 < places)
    (h : fraction < 10 ^ places) :
    (Nat.ofDigitChars 10 (fractionDigits places fraction) 0 : ℚ)
        / 10 ^ (fractionDigits places fraction).length
      = fraction / 10 ^ places := by
  obtain ⟨zeros, hzeros⟩ := exists_fractionDigits_append places fraction
  have hdigits : (Nat.toDigits 10 fraction).length ≤ places :=
    (Nat.length_toDigits_le_iff (by decide) hplaces).mpr h
  have hlength : (fractionDigits places fraction).length + zeros = places := by
    have hlen := congrArg List.length hzeros
    rw [List.length_append, List.length_replicate, List.length_leftpad,
      Nat.max_eq_left hdigits] at hlen
    exact hlen
  have hnumber : 10 ^ zeros * Nat.ofDigitChars 10 (fractionDigits places fraction) 0
      = fraction := by
    rw [← Nat.ofDigitChars_replicate_zero, ← Nat.ofDigitChars_append, hzeros,
      ofDigitChars_leftpad]
  generalize fractionDigits places fraction = kept at *
  have hnumber' : (10 : ℚ) ^ zeros * (Nat.ofDigitChars 10 kept 0 : ℚ) = fraction := by
    exact_mod_cast hnumber
  rw [← hnumber', ← hlength, pow_add, mul_comm ((10 : ℚ) ^ zeros),
    mul_div_mul_right _ _ (by positivity)]

/-! ## 3. Positional notation -/

/-- A point is no digit. -/
theorem point_not_mem_decimal (n : Nat) : '.' ∉ (Numeral.decimal n).toList :=
  Numeral.not_mem_decimal rfl n

theorem ofDigitChars_decimal (n : Nat) :
    Nat.ofDigitChars 10 (Numeral.decimal n).toList 0 = n := by
  rw [Numeral.toList_decimal, Nat.ofDigitChars_ten_toDigits]

/-- **Positional notation stands for the value of the decimal.** -/
theorem read_positional (d : Decimal) : read d.positional.toList = d.value := by
  rw [positional, value]
  by_cases hzero : d.digits = 0
  · rw [if_pos hzero, hzero, Nat.cast_zero, zero_mul, read_whole (by decide)]
    rfl
  rw [if_neg hzero]
  by_cases hexponent : 0 ≤ d.exponent
  · have hpoint : '.' ∉ (Numeral.decimal d.digits).toList
        ++ List.replicate d.exponent.toNat '0' := by
      rw [List.mem_append, not_or]
      exact ⟨point_not_mem_decimal _, fun h => absurd (List.eq_of_mem_replicate h) (by decide)⟩
    have hpower : (10 : ℚ) ^ d.exponent = 10 ^ d.exponent.toNat := by
      rw [← zpow_natCast, Int.toNat_of_nonneg hexponent]
    rw [if_pos hexponent, String.toList_append, String.toList_ofList, read_whole hpoint,
      Nat.ofDigitChars_append, Nat.ofDigitChars_replicate_zero, ofDigitChars_decimal, hpower,
      Nat.cast_mul, Nat.cast_pow, Nat.cast_ofNat, mul_comm]
  · rw [if_neg hexponent]
    dsimp only
    generalize hplaces : (-d.exponent).toNat = places
    have hpos : 0 < places := by omega
    have hpower : (10 : ℚ) ^ d.exponent = (10 ^ places)⁻¹ := by
      rw [← zpow_natCast, ← zpow_neg, ← hplaces, Int.toNat_of_nonneg (by omega), neg_neg]
    have hten : (10 : ℚ) ^ places ≠ 0 := by positivity
    have hsplit : (d.digits : ℚ)
        = 10 ^ places * (d.digits / 10 ^ places : Nat) + (d.digits % 10 ^ places : Nat) := by
      exact_mod_cast (Nat.div_add_mod d.digits (10 ^ places)).symm
    have hvalue : (d.digits : ℚ) * (10 ^ places)⁻¹
        = (d.digits / 10 ^ places : Nat) + (d.digits % 10 ^ places : Nat) / 10 ^ places := by
      rw [← div_eq_mul_inv, div_eq_iff hten, add_mul, div_mul_cancel₀ _ hten,
        mul_comm _ ((10 : ℚ) ^ places)]
      exact hsplit
    rw [hpower, hvalue, Nat.pow_eq]
    by_cases hfraction : d.digits % 10 ^ places = 0
    · rw [if_pos hfraction, read_whole (point_not_mem_decimal _), ofDigitChars_decimal, hfraction,
        Nat.cast_zero, zero_div, add_zero]
    · have hlist : (Numeral.decimal (d.digits / 10 ^ places) ++ "." ++
            String.ofList (fractionDigits places (d.digits % 10 ^ places))).toList
          = (Numeral.decimal (d.digits / 10 ^ places)).toList
            ++ '.' :: fractionDigits places (d.digits % 10 ^ places) := by
        simp
      rw [if_neg hfraction, hlist, read_point (point_not_mem_decimal _), ofDigitChars_decimal,
        ofDigitChars_fractionDigits hpos (Nat.mod_lt _ (by positivity))]

/-- Digits and a point are all that positional notation is made of. -/
theorem isDigit_or_point_of_mem_positional {d : Decimal} {c : Char}
    (h : c ∈ d.positional.toList) : c.isDigit = true ∨ c = '.' := by
  have hdecimal : ∀ n, c ∈ (Numeral.decimal n).toList → c.isDigit = true := by
    intro n hmem
    rw [Numeral.toList_decimal] at hmem
    exact Nat.isDigit_of_mem_toDigits (by decide) (by decide) hmem
  have hzeros : ∀ n, c ∈ List.replicate n '0' → c.isDigit = true := by
    intro n hmem
    rw [List.eq_of_mem_replicate hmem]
    rfl
  rw [positional] at h
  split at h
  · rw [List.mem_singleton.mp h]
    exact .inl rfl
  split at h
  · rw [String.toList_append, String.toList_ofList, List.mem_append] at h
    exact .inl (h.elim (hdecimal _) (hzeros _))
  dsimp only at h
  split at h
  · exact .inl (hdecimal _ h)
  · simp only [String.toList_append, String.toList_ofList, List.mem_append] at h
    rcases h with (hwhole | hpoint) | hfraction
    · exact .inl (hdecimal _ hwhole)
    · exact .inr (List.mem_singleton.mp hpoint)
    · -- the digits of a fraction are among its places
      obtain ⟨zeros, hplaces⟩ := exists_fractionDigits_append (-d.exponent).toNat
        (d.digits % Nat.pow 10 (-d.exponent).toNat)
      have hmem := List.mem_append_left (List.replicate zeros '0') hfraction
      rw [hplaces, List.leftpad, List.mem_append, ← Numeral.toList_decimal] at hmem
      exact .inl (hmem.elim (hzeros _) (hdecimal _))

end Decimal

namespace Ieee

open RoundingInterval

variable {format : Ieee}

/-! ## 4. The text of a float -/

/-- The text of a finite magnitude reads as a number that rounds to it. -/
theorem read_magnitudeText {magnitude : Nat} (hzero : magnitude ≠ 0)
    (hinfinity : magnitude ≠ format.infinity) :
    ∃ d, Decimal.read (format.magnitudeText magnitude).toList = d.value ∧
      (ofMagnitude format magnitude).contains d = true := by
  rw [magnitudeText, if_neg hzero, if_neg hinfinity, Decimal.read_positional]
  exact ⟨_, rfl, contains_shortest_ofMagnitude (Nat.pos_of_ne_zero hzero)⟩

/-- A character other than digits and the point tells that the magnitude is infinite. -/
theorem eq_infinity_of_mem {magnitude : Nat} {c : Char} (hdigit : c.isDigit = false)
    (hpoint : c ≠ '.') (h : c ∈ (format.magnitudeText magnitude).toList) :
    magnitude = format.infinity ∧ magnitude ≠ 0 := by
  rw [magnitudeText] at h
  split at h
  · rw [List.mem_singleton.mp h] at hdigit
    cases hdigit
  · next hzero =>
      split at h
      · next hinfinity => exact ⟨hinfinity, hzero⟩
      · rcases Decimal.isDigit_or_point_of_mem_positional h with hc | hc
        · rw [hc] at hdigit
          cases hdigit
        · exact absurd hc hpoint

theorem magnitudeText_infinity (h : format.infinity ≠ 0) :
    format.magnitudeText format.infinity = "inf" := by
  rw [magnitudeText, if_neg h, if_pos rfl]

theorem magnitudeText_ne_zero {magnitude : Nat} (h : magnitude ≠ 0) :
    format.magnitudeText magnitude ≠ format.magnitudeText 0 := by
  intro heq
  by_cases hinfinity : magnitude = format.infinity
  · rw [hinfinity, magnitudeText_infinity (hinfinity ▸ h), magnitudeText, if_pos rfl] at heq
    exact absurd heq (by decide)
  · obtain ⟨d, hread, hd⟩ := read_magnitudeText h hinfinity
    have hzero : Decimal.read (format.magnitudeText 0).toList = 0 := by
      rw [magnitudeText, if_pos rfl, Decimal.read_whole (by decide)]
      rfl
    have hpos := place_pos (Nat.pos_of_ne_zero h) hd
    rw [place, ← hread, heq, hzero, zero_mul] at hpos
    exact lt_irrefl 0 hpos

/-- **A magnitude is told by its text.** -/
theorem magnitudeText_injective (format : Ieee) : Function.Injective format.magnitudeText := by
  intro a b h
  by_cases hazero : a = 0
  · by_contra hne
    rw [hazero] at h hne
    exact magnitudeText_ne_zero (fun hb => hne hb.symm) h.symm
  by_cases hbzero : b = 0
  · rw [hbzero] at h
    exact absurd h (magnitudeText_ne_zero hazero)
  have hword : 'i' ∈ "inf".toList := by decide
  by_cases hainf : a = format.infinity
  · rw [hainf, magnitudeText_infinity (hainf ▸ hazero)] at h
    rw [h] at hword
    rw [hainf, (eq_infinity_of_mem rfl (by decide) hword).1]
  by_cases hbinf : b = format.infinity
  · rw [hbinf, magnitudeText_infinity (hbinf ▸ hbzero)] at h
    rw [← h] at hword
    rw [hbinf, (eq_infinity_of_mem rfl (by decide) hword).1]
  -- Both are finite, and what they read as rounds to both.
  obtain ⟨d, hdread, hd⟩ := read_magnitudeText hazero hainf
  obtain ⟨e, heread, he⟩ := read_magnitudeText hbzero hbinf
  have hvalue : d.value = e.value := by rw [← hdread, ← heread, h]
  have hplace : (ofMagnitude format b).contains d = true := by
    rw [contains_iff, place, hvalue, ← place, ← contains_iff]
    exact he
  exact eq_of_contains hd hplace

theorem text_of_isNaN {bits : Nat} (h : format.isNaN bits = true) : format.text bits = "NaN" := by
  rw [text, if_pos h]

theorem text_of_isNegative {bits : Nat} (hnan : ¬ format.isNaN bits = true)
    (h : format.isNegative bits = true) :
    format.text bits = "-" ++ format.magnitudeText (format.magnitude bits) := by
  rw [text, if_neg hnan, if_pos h]

theorem text_of_not_isNegative {bits : Nat} (hnan : ¬ format.isNaN bits = true)
    (h : ¬ format.isNegative bits = true) :
    format.text bits = format.magnitudeText (format.magnitude bits) := by
  rw [text, if_neg hnan, if_neg h]

/-- No magnitude has a text with a minus sign or a capital in it. -/
theorem not_mem_magnitudeText {c : Char} (hdigit : c.isDigit = false) (hpoint : c ≠ '.')
    (hword : c ∉ "inf".toList) (magnitude : Nat) :
    c ∉ (format.magnitudeText magnitude).toList := by
  intro hmem
  obtain ⟨hinfinity, hzero⟩ := eq_infinity_of_mem hdigit hpoint hmem
  rw [hinfinity, magnitudeText_infinity (hinfinity ▸ hzero)] at hmem
  exact hword hmem

theorem text_ne_nan {bits : Nat} (h : ¬ format.isNaN bits = true) : format.text bits ≠ "NaN" := by
  intro heq
  have hcapital : 'N' ∈ (format.text bits).toList := by
    rw [heq]
    decide
  by_cases hneg : format.isNegative bits = true
  · rw [text_of_isNegative h hneg, String.toList_append, List.mem_append] at hcapital
    rcases hcapital with hsign | hmagnitude
    · exact absurd hsign (by decide)
    · exact not_mem_magnitudeText rfl (by decide) (by decide) _ hmagnitude
  · rw [text_of_not_isNegative h hneg] at hcapital
    exact not_mem_magnitudeText rfl (by decide) (by decide) _ hcapital

theorem isNegative_iff_mem_text {bits : Nat} (h : ¬ format.isNaN bits = true) :
    format.isNegative bits = true ↔ '-' ∈ (format.text bits).toList := by
  constructor
  · intro hneg
    rw [text_of_isNegative h hneg, String.toList_append]
    exact List.mem_append_left _ (List.mem_singleton.mpr rfl)
  · intro hmem
    by_contra hneg
    rw [text_of_not_isNegative h hneg] at hmem
    exact not_mem_magnitudeText rfl (by decide) (by decide) _ hmem

/-- **A float is told by its text**, unless it is NaN. -/
theorem text_eq_text_iff {a b : Nat} (ha : a < 2 * format.signWeight)
    (hb : b < 2 * format.signWeight) :
    format.text a = format.text b ↔
      a = b ∨ format.isNaN a = true ∧ format.isNaN b = true := by
  constructor
  · intro h
    by_cases hanan : format.isNaN a = true
    · by_cases hbnan : format.isNaN b = true
      · exact .inr ⟨hanan, hbnan⟩
      · rw [text_of_isNaN hanan] at h
        exact absurd h.symm (text_ne_nan hbnan)
    by_cases hbnan : format.isNaN b = true
    · rw [text_of_isNaN hbnan] at h
      exact absurd h (text_ne_nan hanan)
    have hsign : format.isNegative a = format.isNegative b := by
      rw [Bool.eq_iff_iff, isNegative_iff_mem_text hanan, isNegative_iff_mem_text hbnan, h]
    refine .inl (eq_of_isNegative_of_magnitude ha hb hsign (format.magnitudeText_injective ?_))
    by_cases hneg : format.isNegative b = true
    · rw [text_of_isNegative hanan (hsign.trans hneg), text_of_isNegative hbnan hneg] at h
      exact (String.append_right_inj _).mp h
    · rw [text_of_not_isNegative hanan (hsign ▸ hneg), text_of_not_isNegative hbnan hneg] at h
      exact h
  · rintro (rfl | ⟨hanan, hbnan⟩)
    · rfl
    · rw [text_of_isNaN hanan, text_of_isNaN hbnan]

end Ieee

end ClassPool
