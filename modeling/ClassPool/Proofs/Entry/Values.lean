/-
Values of entries. Two entries are equal if they are the same, except that floats are equal as
numbers are: a NaN is not even equal to itself, and the two zeros are equal to one another
(`SameValue`). Apart from these two exceptions equality is identity: what is no NaN has its own value
(`sameValue_self_iff`), and what is no zero shares its value with no other entry
(`SameValue.eq_of_not_isZeroFloat`).
-/
import ClassPool.Entry.Basic
import ClassPool.Proofs.Ieee

set_option autoImplicit false

namespace ClassPool.Entry

/-! ## 1. Floats among entries -/

/-- Whether an entry is a float or a double that is no number. -/
def isNaN : Entry → Bool
  | float bits => Ieee.single.isNaN bits.toNat
  | double bits => Ieee.double.isNaN bits.toNat
  | _ => false

/-- Whether an entry is a float or a double that is zero, with either sign. -/
def isZeroFloat : Entry → Bool
  | float bits => Ieee.single.isZero bits.toNat
  | double bits => Ieee.double.isZero bits.toNat
  | _ => false

/-! ## 2. The same value -/

/-- Two entries have the same value: they are floats or doubles that are equal as numbers, or any
other entry and the same. -/
inductive SameValue : Entry → Entry → Prop where
  | float {a b : UInt32} (h : Ieee.single.EqualNumbers a.toNat b.toNat) :
      SameValue (float a) (float b)
  | double {a b : UInt64} (h : Ieee.double.EqualNumbers a.toNat b.toNat) :
      SameValue (double a) (double b)
  | exact {e : Entry} (hfloat : ∀ bits, e ≠ .float bits) (hdouble : ∀ bits, e ≠ .double bits) :
      SameValue e e

theorem sameNumber_single_iff (a b : UInt32) :
    Ieee.single.sameNumber a.toNat b.toNat = true ↔ Ieee.single.EqualNumbers a.toNat b.toNat :=
  Ieee.sameNumber_iff a.toNat_lt b.toNat_lt

theorem sameNumber_double_iff (a b : UInt64) :
    Ieee.double.sameNumber a.toNat b.toNat = true ↔ Ieee.double.EqualNumbers a.toNat b.toNat :=
  Ieee.sameNumber_iff a.toNat_lt b.toNat_lt

theorem agrees_iff {a b : Entry} : a.agrees b = true ↔ a.SameValue b := by
  fun_cases agrees a b with
  | case1 a b =>
      rw [sameNumber_single_iff]
      exact ⟨.float, fun h => by cases h with
        | float h => exact h
        | exact hfloat _ => exact absurd rfl (hfloat _)⟩
  | case2 a b =>
      rw [sameNumber_double_iff]
      exact ⟨.double, fun h => by cases h with
        | double h => exact h
        | exact _ hdouble => exact absurd rfl (hdouble _)⟩
  | case3 _ _ hfloat hdouble =>
      rw [beq_iff_eq]
      constructor
      · rintro rfl
        exact .exact (fun _ h => hfloat _ _ h h) (fun _ h => hdouble _ _ h h)
      · intro h
        cases h with
        | float _ => exact absurd rfl (hfloat _ _ rfl)
        | double _ => exact absurd rfl (hdouble _ _ rfl)
        | exact _ _ => rfl

theorem SameValue.symm {a b : Entry} (h : a.SameValue b) : b.SameValue a := by
  cases h with
  | float h => exact .float h.symm
  | double h => exact .double h.symm
  | exact hfloat hdouble => exact .exact hfloat hdouble

theorem SameValue.trans {a b c : Entry} (h : a.SameValue b) (h' : b.SameValue c) :
    a.SameValue c := by
  cases h with
  | float h =>
      cases h' with
      | float h' => exact .float (h.trans h')
      | exact hfloat _ => exact absurd rfl (hfloat _)
  | double h =>
      cases h' with
      | double h' => exact .double (h.trans h')
      | exact _ hdouble => exact absurd rfl (hdouble _)
  | exact _ _ => exact h'

/-- An entry has its own value unless it is NaN. -/
theorem sameValue_self_iff {e : Entry} : e.SameValue e ↔ e.isNaN = false := by
  constructor
  · intro h
    cases h with
    | float h => exact h.left
    | double h => exact h.left
    | exact hfloat hdouble =>
        cases e with
        | float bits => exact absurd rfl (hfloat bits)
        | double bits => exact absurd rfl (hdouble bits)
        | _ => rfl
  · intro h
    cases e with
    | float bits => exact .float (Ieee.equalNumbers_self_iff.mpr h)
    | double bits => exact .double (Ieee.equalNumbers_self_iff.mpr h)
    | _ => exact .exact (fun _ => Entry.noConfusion) (fun _ => Entry.noConfusion)

/-- Only zeros have the value of another entry. -/
theorem SameValue.eq_of_not_isZeroFloat {a b : Entry} (h : a.SameValue b)
    (hzero : a.isZeroFloat = false) : a = b := by
  cases h with
  | @float a b h =>
      rcases (Ieee.number_eq_iff a.toNat_lt b.toNat_lt).mp h.number_eq with heq | ⟨hazero, -⟩
      · rw [UInt32.toNat_inj.mp heq]
      · exact absurd (hazero.symm.trans hzero) (by decide)
  | @double a b h =>
      rcases (Ieee.number_eq_iff a.toNat_lt b.toNat_lt).mp h.number_eq with heq | ⟨hazero, -⟩
      · rw [UInt64.toNat_inj.mp heq]
      · exact absurd (hazero.symm.trans hzero) (by decide)
  | exact _ _ => rfl

end ClassPool.Entry
