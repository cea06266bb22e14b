/-
Numbers can be told apart by their digits. The last digit of a number is its remainder and the
digits in front are those of the quotient, so equal digits come from equal numbers in every base
whose digits have characters of their own (`toDigits_injective`). A sign is no digit, and therefore
this holds of signed numbers too.
-/
import ClassPool.Numeral
import Mathlib.Logic.Function.Basic

set_option autoImplicit false

namespace ClassPool.Numeral

/-! ## 1. Characters up to a mark -/

/-- Characters that end at their first mark are told apart from what follows it. -/
theorem append_mark_inj {mark : Char} {front front' rest rest' : List Char}
    (hfront : mark ∉ front) (hfront' : mark ∉ front')
    (h : front ++ mark :: rest = front' ++ mark :: rest') : front = front' ∧ rest = rest' := by
  induction front generalizing front' with
  | nil =>
      cases front' with
      | nil =>
          rw [List.nil_append, List.nil_append, List.cons.injEq] at h
          exact ⟨rfl, h.2⟩
      | cons c front' =>
          rw [List.nil_append, List.cons_append, List.cons.injEq] at h
          rw [h.1] at hfront'
          exact absurd List.mem_cons_self hfront'
  | cons c front ih =>
      rw [List.mem_cons, not_or] at hfront
      cases front' with
      | nil =>
          rw [List.nil_append, List.cons_append, List.cons.injEq] at h
          exact absurd h.1.symm hfront.1
      | cons c' front' =>
          rw [List.mem_cons, not_or] at hfront'
          rw [List.cons_append, List.cons_append, List.cons.injEq] at h
          obtain ⟨rfl, rfl⟩ := ih hfront.2 hfront'.2 h.2
          exact ⟨by rw [h.1], rfl⟩

/-! ## 2. Digits -/

/-- Sixteen digits have characters of their own. -/
theorem digitChar_injOn : ∀ d < 16, ∀ e < 16, Nat.digitChar d = Nat.digitChar e → d = e := by
  decide

/-- The characters of a number are digits below the base. -/
theorem exists_of_mem_toDigits {base n : Nat} {c : Char} (hone : 1 < base)
    (h : c ∈ Nat.toDigits base n) : ∃ d < base, c = Nat.digitChar d := by
  -- The digits are given from the front, but only the last one comes off.
  induction n using Nat.strongRecOn with
  | ind n ih =>
      rcases Nat.lt_or_ge n base with hlt | hge
      · rw [Nat.toDigits_of_lt_base hlt, List.mem_singleton] at h
        exact ⟨n, hlt, h⟩
      · rw [Nat.toDigits_of_base_le hone hge, List.mem_append, List.mem_singleton] at h
        rcases h with hfront | hlast
        · exact ih (n / base) (Nat.div_lt_self (by omega) hone) hfront
        · exact ⟨n % base, Nat.mod_lt n (by omega), hlast⟩

/-- A number of one digit is none of more. -/
theorem toDigits_ne_of_lt_of_le {base n m : Nat} (hone : 1 < base) (hn : n < base)
    (hm : base ≤ m) : Nat.toDigits base n ≠ Nat.toDigits base m := by
  intro h
  rw [Nat.toDigits_of_lt_base hn, Nat.toDigits_of_base_le hone hm,
    ← List.nil_append [Nat.digitChar n]] at h
  exact Nat.toDigits_ne_nil (List.append_inj_left' h rfl).symm

/-- **Equal digits come from equal numbers.** -/
theorem toDigits_injective {base : Nat} (hone : 1 < base) (hbase : base ≤ 16) :
    Function.Injective (Nat.toDigits base) := by
  intro n m h
  induction n using Nat.strongRecOn generalizing m with
  | ind n ih =>
      rcases Nat.lt_or_ge n base with hn | hn
      · rcases Nat.lt_or_ge m base with hm | hm
        · rw [Nat.toDigits_of_lt_base hn, Nat.toDigits_of_lt_base hm, List.cons.injEq] at h
          exact digitChar_injOn n (by omega) m (by omega) h.1
        · exact absurd h (toDigits_ne_of_lt_of_le hone hn hm)
      · rcases Nat.lt_or_ge m base with hm | hm
        · exact absurd h.symm (toDigits_ne_of_lt_of_le hone hm hn)
        · rw [Nat.toDigits_of_base_le hone hn, Nat.toDigits_of_base_le hone hm] at h
          obtain ⟨hfront, hlast⟩ := List.append_inj' h rfl
          rw [List.cons.injEq] at hlast
          have hnmod := Nat.mod_lt n (show 0 < base by omega)
          have hmmod := Nat.mod_lt m (show 0 < base by omega)
          have hmod := digitChar_injOn _ (by omega) _ (by omega) hlast.1
          have hdiv := ih (n / base) (Nat.div_lt_self (by omega) hone) hfront
          rw [← Nat.div_add_mod n base, ← Nat.div_add_mod m base, hdiv, hmod]

/-! ## 3. Numbers as text -/

theorem toList_decimal (n : Nat) : (decimal n).toList = Nat.toDigits 10 n :=
  String.toList_ofList

theorem decimal_injective : Function.Injective decimal := by
  intro n m h
  rw [decimal, decimal, String.ofList_inj] at h
  exact toDigits_injective (by decide) (by decide) h

theorem hex_injective : Function.Injective hex := by
  intro n m h
  rw [hex, hex, String.ofList_inj] at h
  exact toDigits_injective (by decide) (by decide) h

/-- Only digits stand in a decimal. -/
theorem not_mem_decimal {c : Char} (h : c.isDigit = false) (n : Nat) :
    c ∉ (decimal n).toList := by
  rw [toList_decimal]
  intro hmem
  rw [Nat.isDigit_of_mem_toDigits (by decide) (by decide) hmem] at h
  cases h

theorem signed_injective : Function.Injective signed := by
  intro i j h
  have hminus : ∀ n m, "-" ++ decimal n ≠ decimal m := by
    intro n m heq
    have hmem : '-' ∈ (decimal m).toList := by
      rw [← heq, String.toList_append]
      exact List.mem_append_left _ (List.mem_singleton.mpr rfl)
    exact not_mem_decimal rfl m hmem
  rw [signed, signed] at h
  split at h <;> split at h
  · have habs := decimal_injective ((String.append_right_inj _).mp h)
    omega
  · exact absurd h (hminus _ _)
  · exact absurd h.symm (hminus _ _)
  · have habs := decimal_injective h
    omega

end ClassPool.Numeral
