/-
The order of floats. The multiples that magnitudes stand for grow with them without exception, from
a pattern to the next also where the exponent changes (`strictMono_scaled`). Two magnitudes therefore
stand for different numbers, and with the sign in front two patterns stand for one number only if
they are the same or both zero (`number_eq_iff`).

Floats are equal as numbers if neither is NaN and they stand for one number. This is what
`sameNumber` decides on the patterns alone (`sameNumber_iff`).
-/
import ClassPool.Ieee
import Mathlib.Order.Monotone.Basic

set_option autoImplicit false

namespace ClassPool.Ieee

variable (format : Ieee)

/-! ## 1. Magnitudes -/

theorem exponentWeight_pos : 0 < format.exponentWeight :=
  Nat.two_pow_pos format.fractionBits

theorem signWeight_pos : 0 < format.signWeight :=
  Nat.two_pow_pos (format.exponentBits + format.fractionBits)

theorem scaled_zero : format.scaled 0 = 0 := by
  rw [scaled, Nat.zero_div, Nat.zero_mod, if_pos rfl]

/-- The multiple by the fields of the magnitude. -/
theorem scaled_fields {exponent fraction : Nat} (h : fraction < format.exponentWeight) :
    format.scaled (format.exponentWeight * exponent + fraction)
      = if exponent = 0 then fraction
        else (format.exponentWeight + fraction) * Nat.pow 2 (exponent - 1) := by
  rw [scaled, Nat.mul_add_div format.exponentWeight_pos, Nat.mul_add_mod, Nat.div_eq_of_lt h,
    Nat.mod_eq_of_lt h, Nat.add_zero]

/-- The next magnitude stands for more, also where its exponent is the next one. -/
theorem scaled_lt_scaled_succ (magnitude : Nat) :
    format.scaled magnitude < format.scaled (magnitude + 1) := by
  have hpos := format.exponentWeight_pos
  have hfraction := Nat.mod_lt magnitude hpos
  rw [← Nat.div_add_mod magnitude format.exponentWeight]
  generalize magnitude / format.exponentWeight = exponent at *
  generalize magnitude % format.exponentWeight = fraction at *
  by_cases hlast : fraction + 1 < format.exponentWeight
  · rw [Nat.add_assoc, format.scaled_fields hfraction, format.scaled_fields hlast]
    by_cases hexponent : exponent = 0
    · rw [if_pos hexponent, if_pos hexponent]
      exact Nat.lt_succ_self fraction
    · rw [if_neg hexponent, if_neg hexponent]
      exact Nat.mul_lt_mul_of_pos_right (by omega) (Nat.two_pow_pos _)
  · -- The fraction is full, so the next one is empty under the next exponent.
    have hnext : format.exponentWeight * exponent + fraction + 1
        = format.exponentWeight * (exponent + 1) + 0 := by
      rw [Nat.mul_add_one]
      omega
    rw [hnext, format.scaled_fields hfraction, format.scaled_fields hpos,
      if_neg (Nat.succ_ne_zero exponent), Nat.add_sub_cancel]
    by_cases hexponent : exponent = 0
    · rw [if_pos hexponent, hexponent, Nat.pow_eq, Nat.pow_zero]
      omega
    · rw [if_neg hexponent, Nat.pow_eq, Nat.pow_eq,
        ← Nat.two_pow_pred_mul_two (Nat.pos_of_ne_zero hexponent), Nat.mul_comm _ 2,
        ← Nat.mul_assoc]
      exact Nat.mul_lt_mul_of_pos_right (by omega) (Nat.two_pow_pos _)

/-- **Greater magnitudes stand for greater numbers.** -/
theorem strictMono_scaled : StrictMono format.scaled :=
  strictMono_nat_of_lt_succ format.scaled_lt_scaled_succ

/-! ## 2. Patterns -/

variable {format}

/-- A pattern of the width of the format is its sign and its magnitude. -/
theorem eq_of_isNegative_of_magnitude {a b : Nat} (ha : a < 2 * format.signWeight)
    (hb : b < 2 * format.signWeight) (hsign : format.isNegative a = format.isNegative b)
    (hmagnitude : format.magnitude a = format.magnitude b) : a = b := by
  have hpos := format.signWeight_pos
  have hasign : a / format.signWeight < 2 := (Nat.div_lt_iff_lt_mul hpos).mpr ha
  have hbsign : b / format.signWeight < 2 := (Nat.div_lt_iff_lt_mul hpos).mpr hb
  have hdiv : a / format.signWeight = b / format.signWeight := by
    rw [isNegative, isNegative, Nat.mod_eq_of_lt hasign, Nat.mod_eq_of_lt hbsign,
      Bool.eq_iff_iff, beq_iff_eq, beq_iff_eq] at hsign
    generalize a / format.signWeight = asign at *
    generalize b / format.signWeight = bsign at *
    omega
  rw [magnitude, magnitude] at hmagnitude
  rw [← Nat.div_add_mod a format.signWeight, ← Nat.div_add_mod b format.signWeight, hdiv,
    hmagnitude]

variable (format)

/-- The number that a pattern stands for, as a multiple of the least positive one. Infinity stands
behind all finite numbers. -/
def number (bits : Nat) : Int :=
  if format.isNegative bits then -(format.scaled (format.magnitude bits) : Int)
  else format.scaled (format.magnitude bits)

variable {format}

theorem isZero_iff {bits : Nat} : format.isZero bits = true ↔ format.magnitude bits = 0 := by
  rw [isZero, beq_iff_eq]

theorem scaled_eq_zero_iff {magnitude : Nat} : format.scaled magnitude = 0 ↔ magnitude = 0 := by
  rw [← format.scaled_zero, format.strictMono_scaled.injective.eq_iff, format.scaled_zero]

/-- Two patterns stand for one number only if they are the same or both zero. -/
theorem number_eq_iff {a b : Nat} (ha : a < 2 * format.signWeight)
    (hb : b < 2 * format.signWeight) :
    format.number a = format.number b ↔
      a = b ∨ format.isZero a = true ∧ format.isZero b = true := by
  rw [isZero_iff, isZero_iff]
  constructor
  · intro h
    by_cases hsign : format.isNegative a = format.isNegative b
    · -- equal signs leave the magnitudes
      have hscaled : format.scaled (format.magnitude a) = format.scaled (format.magnitude b) := by
        rw [number, number, hsign] at h
        split at h <;> omega
      exact .inl (eq_of_isNegative_of_magnitude ha hb hsign
        (format.strictMono_scaled.injective hscaled))
    · -- a negative number and one that is not are equal only if both are zero
      have hzero : format.scaled (format.magnitude a) = 0 ∧
          format.scaled (format.magnitude b) = 0 := by
        rw [number, number] at h
        split at h <;> split at h
        · next hasign hbsign => exact absurd (hasign.trans hbsign.symm) hsign
        · omega
        · omega
        · next hasign hbsign =>
            rw [Bool.not_eq_true] at hasign hbsign
            exact absurd (hasign.trans hbsign.symm) hsign
      exact .inr ⟨scaled_eq_zero_iff.mp hzero.1, scaled_eq_zero_iff.mp hzero.2⟩
  · rintro (rfl | ⟨hazero, hbzero⟩)
    · rfl
    · rw [number, number, hazero, hbzero, format.scaled_zero]
      simp

/-! ## 3. Equality as numbers -/

variable (format)

/-- Two floats are one number: neither is NaN, and they stand for the same. -/
structure EqualNumbers (a b : Nat) : Prop where
  left : format.isNaN a = false
  right : format.isNaN b = false
  number_eq : format.number a = format.number b

variable {format}

theorem EqualNumbers.symm {a b : Nat} (h : format.EqualNumbers a b) : format.EqualNumbers b a :=
  ⟨h.right, h.left, h.number_eq.symm⟩

theorem EqualNumbers.trans {a b c : Nat} (h : format.EqualNumbers a b)
    (h' : format.EqualNumbers b c) : format.EqualNumbers a c :=
  ⟨h.left, h'.right, h.number_eq.trans h'.number_eq⟩

theorem equalNumbers_self_iff {a : Nat} : format.EqualNumbers a a ↔ format.isNaN a = false :=
  ⟨EqualNumbers.left, fun h => ⟨h, h, rfl⟩⟩

/-- **Equality as numbers is decided on the patterns.** -/
theorem sameNumber_iff {a b : Nat} (ha : a < 2 * format.signWeight)
    (hb : b < 2 * format.signWeight) :
    format.sameNumber a b = true ↔ format.EqualNumbers a b := by
  rw [sameNumber, Bool.and_eq_true, Bool.and_eq_true, Bool.not_eq_true', Bool.not_eq_true',
    Bool.or_eq_true, Bool.and_eq_true, beq_iff_eq, ← number_eq_iff ha hb, and_assoc]
  exact ⟨fun h => ⟨h.1, h.2.1, h.2.2⟩, fun h => ⟨h.left, h.right, h.number_eq⟩⟩

end ClassPool.Ieee
