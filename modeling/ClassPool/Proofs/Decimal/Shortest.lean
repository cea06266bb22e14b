/-
The shortest decimal of a float rounds to that float and to no other. A decimal lies in an interval
if its value does (`contains_iff`); comparing numerators on a common grid is only how that is
decided. Whatever the search chooses it has found to lie in the interval, and the exact value that
it falls back on lies there because the float itself does (`contains_shortest`).

The intervals of two floats have at most an end in common, namely the midpoint between neighbours.
As one of two neighbours is odd, and the interval of an odd pattern has no ends, no decimal lies in
both (`eq_of_contains`).
-/
import ClassPool.Decimal.Shortest
import ClassPool.Proofs.Ieee
import Mathlib.Algebra.Order.Field.Rat
import Mathlib.Tactic.Positivity
import Mathlib.Tactic.Ring

set_option autoImplicit false

namespace ClassPool

/-- The number that a decimal stands for. -/
def Decimal.value (d : Decimal) : ℚ :=
  d.digits * 10 ^ d.exponent

namespace RoundingInterval

variable (interval : RoundingInterval)

/-! ## 1. Decimals in an interval -/

/-- The place of a decimal as a numerator of the interval. -/
def place (d : Decimal) : ℚ :=
  d.value * 2 ^ interval.scale

theorem weight_pos (exponent : Int) : (0 : ℚ) < weight exponent := by
  have h : 0 < weight exponent := Nat.pow_pos (by decide)
  exact_mod_cast h

/-- A numerator and a decimal are compared on a grid to which both are brought. -/
theorem place_mul_weight (d : Decimal) :
    interval.place d * weight d.exponent = d.digits * interval.gridUnit d.exponent := by
  have hexponent : d.exponent + ((-d.exponent).toNat : ℤ) = (d.exponent.toNat : ℤ) := by omega
  have hten : (10 : ℚ) ^ d.exponent * 10 ^ (-d.exponent).toNat = 10 ^ d.exponent.toNat := by
    rw [← zpow_natCast, ← zpow_add₀ (by norm_num), hexponent, zpow_natCast]
  have hweight : (weight d.exponent : ℚ) = 10 ^ (-d.exponent).toNat := by
    rw [weight, Nat.pow_eq, Nat.cast_pow, Nat.cast_ofNat]
  have hunit : (interval.gridUnit d.exponent : ℚ)
      = 10 ^ d.exponent.toNat * 2 ^ interval.scale := by
    rw [gridUnit, Nat.pow_eq, Nat.pow_eq, Nat.cast_mul, Nat.cast_pow, Nat.cast_pow,
      Nat.cast_ofNat, Nat.cast_ofNat]
  rw [hweight, hunit, ← hten, place, Decimal.value]
  ring

theorem le_place_iff (n : Nat) (d : Decimal) :
    n * weight d.exponent ≤ d.digits * interval.gridUnit d.exponent ↔
      (n : ℚ) ≤ interval.place d := by
  rw [← mul_le_mul_iff_left₀ (weight_pos d.exponent), place_mul_weight]
  exact_mod_cast Iff.rfl

theorem place_le_iff (n : Nat) (d : Decimal) :
    d.digits * interval.gridUnit d.exponent ≤ n * weight d.exponent ↔
      interval.place d ≤ (n : ℚ) := by
  rw [← mul_le_mul_iff_left₀ (weight_pos d.exponent), place_mul_weight]
  exact_mod_cast Iff.rfl

/-- **A decimal lies in an interval if its value does.** The ends belong to a closed interval. -/
theorem contains_iff (d : Decimal) :
    interval.contains d = true ↔
      if interval.closed then
        (interval.low : ℚ) ≤ interval.place d ∧ interval.place d ≤ interval.high
      else (interval.low : ℚ) < interval.place d ∧ interval.place d < interval.high := by
  rw [contains]
  by_cases hclosed : interval.closed = true
  · rw [if_pos hclosed, if_pos hclosed, Bool.and_eq_true, decide_eq_true_iff, decide_eq_true_iff,
      le_place_iff, place_le_iff]
  · rw [if_neg hclosed, if_neg hclosed, Bool.and_eq_true, decide_eq_true_iff, decide_eq_true_iff,
      ← Nat.not_le, ← Nat.not_le, le_place_iff, place_le_iff, not_le, not_le]

variable {interval}

theorem low_le_place {d : Decimal} (h : interval.contains d = true) :
    (interval.low : ℚ) ≤ interval.place d := by
  rw [contains_iff] at h
  split at h
  · exact h.1
  · exact le_of_lt h.1

theorem place_le_high {d : Decimal} (h : interval.contains d = true) :
    interval.place d ≤ interval.high := by
  rw [contains_iff] at h
  split at h
  · exact h.2
  · exact le_of_lt h.2

/-! ## 2. The shortest decimal -/

variable (interval)

theorem place_exact : interval.place interval.exact = interval.value := by
  have hten : (10 : ℚ) ^ interval.scale = 5 ^ interval.scale * 2 ^ interval.scale := by
    rw [← mul_pow]
    norm_num
  have hpos : (10 : ℚ) ^ interval.scale ≠ 0 := by positivity
  rw [place, Decimal.value, exact, Nat.pow_eq, zpow_neg, zpow_natCast, Nat.cast_mul, Nat.cast_pow,
    Nat.cast_ofNat, mul_right_comm, mul_assoc _ (5 ^ interval.scale), ← hten,
    mul_inv_cancel_right₀ hpos]

variable {interval}

theorem contains_exact (hlow : interval.low < interval.value)
    (hhigh : interval.value < interval.high) : interval.contains interval.exact = true := by
  have hlow' : (interval.low : ℚ) < interval.value := by exact_mod_cast hlow
  have hhigh' : (interval.value : ℚ) < interval.high := by exact_mod_cast hhigh
  rw [contains_iff, place_exact]
  split
  · exact ⟨le_of_lt hlow', le_of_lt hhigh'⟩
  · exact ⟨hlow', hhigh'⟩

theorem contains_of_nearestOnGrid? {exponent : Int} {d : Decimal}
    (h : interval.nearestOnGrid? exponent = some d) : interval.contains d = true := by
  rw [nearestOnGrid?] at h
  dsimp only at h
  split at h
  · next hlower =>
      split at h
      · next hupper =>
          rw [Option.some.injEq] at h
          rw [Bool.and_eq_true] at hupper
          rw [← h]
          exact hupper.1
      · rw [Option.some.injEq] at h
        rw [← h]
        exact hlower
  · split at h
    · next hupper =>
        rw [Option.some.injEq] at h
        rw [← h]
        exact hupper
    · cases h

/-- **What is chosen lies in the interval**, also where no grid is fine enough. -/
theorem contains_shortest (hlow : interval.low < interval.value)
    (hhigh : interval.value < interval.high) : interval.contains interval.shortest = true := by
  rw [shortest]
  cases hfound : ((List.range 17).map fun (places : Nat) =>
      interval.leadingExponent - 1 - (places : Int)).findSome? interval.nearestOnGrid? with
  | none => exact contains_exact hlow hhigh
  | some d =>
      obtain ⟨exponent, -, hd⟩ := List.exists_of_findSome?_eq_some hfound
      exact contains_of_nearestOnGrid? hd

/-! ## 3. Intervals of floats -/

variable {format : Ieee} {magnitude other : Nat}

theorem contains_shortest_ofMagnitude (h : 0 < magnitude) :
    (ofMagnitude format magnitude).contains (ofMagnitude format magnitude).shortest = true := by
  have hbelow : format.scaled (magnitude - 1) < format.scaled magnitude :=
    format.strictMono_scaled (by omega)
  have habove := format.scaled_lt_scaled_succ magnitude
  have hlow : (ofMagnitude format magnitude).low < (ofMagnitude format magnitude).value := by
    show format.scaled (magnitude - 1) + format.scaled magnitude < 2 * format.scaled magnitude
    omega
  have hhigh : (ofMagnitude format magnitude).value < (ofMagnitude format magnitude).high := by
    show 2 * format.scaled magnitude < format.scaled magnitude + format.scaled (magnitude + 1)
    omega
  exact contains_shortest hlow hhigh

/-- Zero is outside of every interval. -/
theorem place_pos (h : 0 < magnitude) {d : Decimal}
    (hd : (ofMagnitude format magnitude).contains d = true) :
    0 < (ofMagnitude format magnitude).place d := by
  have hpos : 0 < format.scaled magnitude := by
    rw [← format.scaled_zero]
    exact format.strictMono_scaled h
  have hlow : 0 < (ofMagnitude format magnitude).low := by
    show 0 < format.scaled (magnitude - 1) + format.scaled magnitude
    omega
  have hlow' : (0 : ℚ) < (ofMagnitude format magnitude).low := by exact_mod_cast hlow
  exact lt_of_lt_of_le hlow' (low_le_place hd)

/-- An interval ends in front of every later one, or where the next one starts. -/
theorem not_contains_of_lt (h : magnitude < other) {d : Decimal}
    (hd : (ofMagnitude format magnitude).contains d = true) :
    ¬ (ofMagnitude format other).contains d = true := by
  intro hother
  have hmono := format.strictMono_scaled
  have hhigh : (ofMagnitude format magnitude).place d
      ≤ (format.scaled magnitude + format.scaled (magnitude + 1) : Nat) := place_le_high hd
  have hlow : ((format.scaled (other - 1) + format.scaled other : Nat) : ℚ)
      ≤ (ofMagnitude format magnitude).place d := low_le_place hother
  have hends : format.scaled (other - 1) + format.scaled other
      ≤ format.scaled magnitude + format.scaled (magnitude + 1) := by
    exact_mod_cast le_trans hlow hhigh
  have hnext : format.scaled (magnitude + 1) ≤ format.scaled other := hmono.monotone h
  have hprevious : format.scaled magnitude ≤ format.scaled (other - 1) :=
    hmono.monotone (by omega)
  -- No room is left between the two, so they are neighbours and share the midpoint.
  have hneighbours : magnitude + 1 = other := hmono.injective (by omega)
  subst hneighbours
  rw [contains_iff] at hd hother
  by_cases heven : magnitude % 2 = 0
  · have hopen : ¬ (ofMagnitude format (magnitude + 1)).closed = true := by
      show ¬ ((magnitude + 1) % 2 == 0) = true
      rw [beq_iff_eq]
      omega
    rw [if_neg hopen] at hother
    exact absurd hhigh (not_le.mpr hother.1)
  · have hopen : ¬ (ofMagnitude format magnitude).closed = true := by
      show ¬ (magnitude % 2 == 0) = true
      rw [beq_iff_eq]
      exact heven
    rw [if_neg hopen] at hd
    exact absurd hlow (not_le.mpr hd.2)

/-- **No decimal rounds to two floats.** -/
theorem eq_of_contains {d : Decimal} (hd : (ofMagnitude format magnitude).contains d = true)
    (hother : (ofMagnitude format other).contains d = true) : magnitude = other := by
  rcases Nat.lt_trichotomy magnitude other with hlt | heq | hgt
  · exact absurd hother (not_contains_of_lt hlt hd)
  · exact heq
  · exact absurd hd (not_contains_of_lt hgt hother)

end RoundingInterval

end ClassPool
