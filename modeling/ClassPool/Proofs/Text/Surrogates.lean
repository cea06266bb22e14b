/-
Joining units undoes taking characters apart. A character is either one unit that is no
surrogate or a high and a low surrogate, and from left to right nothing else joins, so the
units of a text are exactly the units that join to its characters.

`join_eq_ok_iff` is that statement. Both of its directions are about `joinOnto`, with the
characters that are already known in front: towards units one character at a time
(`joinOnto_ofChar`), towards characters along the recursion of `joinOnto` itself.

Which units these are can be said place by place. A surrogate has a partner if it is one half
of a pair, the high one in front, and no surrogate is half of two pairs, so it does not matter
that pairs are joined from the left. Units join exactly if every surrogate has a partner
(`exists_join_iff`), and otherwise joining stops at the first one that has none
(`firstUnpaired_of_join`).
-/
import ClassPool.Text.Utf16

set_option autoImplicit false

namespace ClassPool.Text.Utf16

/-! ## 1. Characters by number -/

theorem toNat_ofNat_of_isValidChar {n : Nat} (h : n.isValidChar) : (Char.ofNat n).toNat = n := by
  rw [Char.ofNat, dif_pos h]
  rfl

theorem toNat_ofNat_unit {unit : UInt16} (hhigh : isHigh unit = false) (hlow : isLow unit = false) :
    (Char.ofNat unit.toNat).toNat = unit.toNat := by
  have hlt : unit.toNat < 0x10000 := unit.toNat_lt
  simp only [isHigh, isLow, Bool.and_eq_false_iff, decide_eq_false_iff_not] at hhigh hlow
  apply toNat_ofNat_of_isValidChar
  simp only [Nat.isValidChar]
  omega

/-- A pair is a character beyond the units, ten bits from each half. -/
theorem toNat_pair {high low : UInt16} (hhigh : isHigh high = true) (hlow : isLow low = true) :
    (pair high low).toNat = 0x10000 + (high.toNat - 0xD800) * 0x400 + (low.toNat - 0xDC00) := by
  simp only [isHigh, isLow, Bool.and_eq_true, decide_eq_true_eq] at hhigh hlow
  apply toNat_ofNat_of_isValidChar
  simp only [Nat.isValidChar]
  omega

/-! ## 2. One character -/

theorem ofChar_ofNat {unit : UInt16} (hhigh : isHigh unit = false) (hlow : isLow unit = false) :
    ofChar (Char.ofNat unit.toNat) = [unit] := by
  have hlt : unit.toNat < 0x10000 := unit.toNat_lt
  rw [ofChar, toNat_ofNat_unit hhigh hlow, if_pos hlt, UInt16.ofNat_toNat]

theorem ofChar_pair {high low : UInt16} (hhigh : isHigh high = true) (hlow : isLow low = true) :
    ofChar (pair high low) = [high, low] := by
  have hnum := toNat_pair hhigh hlow
  simp only [isHigh, isLow, Bool.and_eq_true, decide_eq_true_eq] at hhigh hlow
  have hfirst : 0xD800 + ((pair high low).toNat - 0x10000) / 0x400 = high.toNat := by omega
  have hsecond : 0xDC00 + ((pair high low).toNat - 0x10000) % 0x400 = low.toNat := by omega
  rw [ofChar, if_neg (by omega), hfirst, hsecond, UInt16.ofNat_toNat, UInt16.ofNat_toNat]

/-- A unit that is no surrogate joins alone, whatever follows it. -/
theorem joinOnto_cons_unit (done : List Char) {unit : UInt16} (rest : List UInt16)
    (hhigh : isHigh unit = false) (hlow : isLow unit = false) :
    joinOnto done (unit :: rest) = joinOnto (Char.ofNat unit.toNat :: done) rest := by
  cases rest with
  | nil => simp [joinOnto, hhigh, hlow]
  | cons next rest => simp [joinOnto, hhigh, hlow]

/-- A character is one unit that is no surrogate, or a high surrogate and a low one. -/
theorem ofChar_cases (c : Char) :
    (∃ unit, ofChar c = [unit] ∧ isHigh unit = false ∧ isLow unit = false ∧
      Char.ofNat unit.toNat = c) ∨
    ∃ high low, ofChar c = [high, low] ∧ isHigh high = true ∧ isLow low = true ∧
      pair high low = c := by
  have hvalid : c.toNat < 0xD800 ∨ 0xDFFF < c.toNat ∧ c.toNat < 0x110000 := c.valid
  -- Below `10000` the character is its own unit, and valid characters leave the surrogates out.
  -- Beyond it either half of the difference has ten bits and lands in its range of surrogates.
  by_cases hsmall : c.toNat < 0x10000
  · have hnum : (UInt16.ofNat c.toNat).toNat = c.toNat := UInt16.toNat_ofNat_of_lt' hsmall
    have hhigh : isHigh (UInt16.ofNat c.toNat) = false := by
      simp only [isHigh, hnum, Bool.and_eq_false_iff, decide_eq_false_iff_not]
      omega
    have hlow : isLow (UInt16.ofNat c.toNat) = false := by
      simp only [isLow, hnum, Bool.and_eq_false_iff, decide_eq_false_iff_not]
      omega
    refine .inl ⟨UInt16.ofNat c.toNat, ?_, hhigh, hlow, ?_⟩
    · rw [ofChar, if_pos hsmall]
    · rw [hnum, Char.ofNat_toNat]
  · have hfirst : (UInt16.ofNat (0xD800 + (c.toNat - 0x10000) / 0x400)).toNat
        = 0xD800 + (c.toNat - 0x10000) / 0x400 :=
      UInt16.toNat_ofNat_of_lt' (show _ < 0x10000 by omega)
    have hsecond : (UInt16.ofNat (0xDC00 + (c.toNat - 0x10000) % 0x400)).toNat
        = 0xDC00 + (c.toNat - 0x10000) % 0x400 :=
      UInt16.toNat_ofNat_of_lt' (show _ < 0x10000 by omega)
    have hhigh : isHigh (UInt16.ofNat (0xD800 + (c.toNat - 0x10000) / 0x400)) = true := by
      simp only [isHigh, hfirst, Bool.and_eq_true, decide_eq_true_eq]
      omega
    have hlow : isLow (UInt16.ofNat (0xDC00 + (c.toNat - 0x10000) % 0x400)) = true := by
      simp only [isLow, hsecond, Bool.and_eq_true, decide_eq_true_eq]
      omega
    refine .inr ⟨_, _, ?_, hhigh, hlow, ?_⟩
    · rw [ofChar, if_neg hsmall]
    · rw [← Char.toNat_inj, toNat_pair hhigh hlow, hfirst, hsecond]
      omega

/-- The units of a character join to that character, whatever follows them. -/
theorem joinOnto_ofChar (done : List Char) (c : Char) (rest : List UInt16) :
    joinOnto done (ofChar c ++ rest) = joinOnto (c :: done) rest := by
  rcases ofChar_cases c with ⟨unit, hunits, hhigh, hlow, hc⟩ | ⟨high, low, hunits, hhigh, hlow, hc⟩
  · rw [hunits, List.singleton_append, joinOnto_cons_unit done rest hhigh hlow, hc]
  · rw [hunits]
    simp only [List.cons_append, List.nil_append, joinOnto, hhigh, hlow, if_true, hc]

/-! ## 3. Texts -/

theorem joinOnto_flatMap (done chars : List Char) :
    joinOnto done (chars.flatMap ofChar) = .ok (done.reverse ++ chars) := by
  induction chars generalizing done with
  | nil => simp [joinOnto]
  | cons c chars ih =>
      rw [List.flatMap_cons, joinOnto_ofChar, ih]
      simp

/-- What joins is the units of the characters that it joins to. -/
theorem eq_flatMap_of_joinOnto {done : List Char} {units : List UInt16} {chars : List Char}
    (h : joinOnto done units = .ok chars) :
    ∃ more, chars = done.reverse ++ more ∧ units = more.flatMap ofChar := by
  -- Only three cases of the recursion go on; the others end in an error, which `h` excludes.
  fun_induction joinOnto done units with
  | case1 done =>
      refine ⟨[], ?_, rfl⟩
      simpa using h.symm
  | case2 => simp at h
  | case3 done unit hplain =>
      simp only [Bool.or_eq_true, not_or, Bool.not_eq_true] at hplain
      refine ⟨[Char.ofNat unit.toNat], ?_, ?_⟩
      · simpa using h.symm
      · simp [ofChar_ofNat hplain.1 hplain.2]
  | case4 done unit next rest hhigh hlow ih =>
      obtain ⟨more, rfl, rfl⟩ := ih h
      refine ⟨pair unit next :: more, by simp, ?_⟩
      rw [List.flatMap_cons, ofChar_pair hhigh hlow]
      rfl
  | case5 => simp at h
  | case6 => simp at h
  | case7 done unit next rest hhigh hlow ih =>
      simp only [Bool.not_eq_true] at hhigh hlow
      obtain ⟨more, rfl, hrest⟩ := ih h
      refine ⟨Char.ofNat unit.toNat :: more, by simp, ?_⟩
      rw [List.flatMap_cons, ofChar_ofNat hhigh hlow, ← hrest]
      rfl

/-- **Joining is the inverse of taking apart**: the units that join to characters are exactly
the units of those characters. -/
theorem join_eq_ok_iff {units : List UInt16} {chars : List Char} :
    join units = .ok chars ↔ units = chars.flatMap ofChar := by
  constructor
  · intro h
    obtain ⟨more, hchars, hunits⟩ := eq_flatMap_of_joinOnto h
    rw [hunits, hchars]
    rfl
  · rintro rfl
    exact joinOnto_flatMap [] chars

/-- No two texts have the same units. -/
theorem eq_of_units_eq {s t : String} (h : units s = units t) : s = t := by
  have hs : join (units s) = .ok s.toList := join_eq_ok_iff.mpr rfl
  have ht : join (units s) = .ok t.toList := join_eq_ok_iff.mpr h
  rw [hs] at ht
  exact String.toList_inj.mp (Except.ok.inj ht)

/-! ## 4. Surrogates without a partner -/

/-- A high surrogate stands at a place and a low one right behind it. -/
def PairAt (units : List UInt16) (place : Nat) : Prop :=
  ∃ high low, units[place]? = some high ∧ units[place + 1]? = some low ∧
    isHigh high = true ∧ isLow low = true

/-- A surrogate stands at a place, and it is neither the first half of a pair nor the second. -/
structure UnpairedAt (units : List UInt16) (place : Nat) (unit : UInt16) : Prop where
  stands : units[place]? = some unit
  surrogate : isHigh unit = true ∨ isLow unit = true
  notFirst : ¬ PairAt units place
  notSecond : ∀ before, before + 1 = place → ¬ PairAt units before

/-- Every surrogate is one half of a pair. -/
def AllPaired (units : List UInt16) : Prop :=
  ∀ place unit, ¬ UnpairedAt units place unit

/-- Of the surrogates that are no half of a pair this is the first. -/
def FirstUnpaired (units : List UInt16) (unit : UInt16) : Prop :=
  ∃ place, UnpairedAt units place unit ∧
    ∀ before < place, ∀ other, ¬ UnpairedAt units before other

theorem isHigh_eq_false_of_isLow {unit : UInt16} (h : isLow unit = true) : isHigh unit = false := by
  simp only [isHigh, isLow, Bool.and_eq_true, decide_eq_true_eq, Bool.and_eq_false_iff,
    decide_eq_false_iff_not] at h ⊢
  omega

theorem pairAt_cons_succ (unit : UInt16) {units : List UInt16} {place : Nat} :
    PairAt (unit :: units) (place + 1) ↔ PairAt units place := by
  simp only [PairAt, List.getElem?_cons_succ]

theorem pairAt_cons_zero {unit : UInt16} {units : List UInt16} :
    PairAt (unit :: units) 0 ↔ isHigh unit = true ∧ ∃ low ∈ units.head?, isLow low = true := by
  rw [PairAt, List.getElem?_cons_zero, Nat.zero_add, List.getElem?_cons_succ,
    ← List.head?_eq_getElem?]
  constructor
  · rintro ⟨high, low, hunit, hnext, hhigh, hlow⟩
    rw [Option.some.inj hunit]
    exact ⟨hhigh, low, hnext, hlow⟩
  · rintro ⟨hhigh, low, hnext, hlow⟩
    exact ⟨unit, low, rfl, hnext, hhigh, hlow⟩

/-- A unit that is no high surrogate is no first half. -/
theorem not_pairAt_cons_zero {unit : UInt16} {units : List UInt16} (h : isHigh unit = false) :
    ¬ PairAt (unit :: units) 0 := by
  rw [pairAt_cons_zero, h]
  rintro ⟨⟨⟩, -⟩

/-- A unit in front matters only to the one right behind it, and only as its first half. -/
theorem unpairedAt_cons_succ {unit other : UInt16} {units : List UInt16} {place : Nat}
    (h : place = 0 → ¬ PairAt (unit :: units) 0) :
    UnpairedAt (unit :: units) (place + 1) other ↔ UnpairedAt units place other := by
  constructor
  · rintro ⟨hstands, hsurrogate, hfirst, hsecond⟩
    rw [pairAt_cons_succ] at hfirst
    refine ⟨hstands, hsurrogate, hfirst, ?_⟩
    intro before hbefore
    rw [← pairAt_cons_succ unit]
    exact hsecond (before + 1) (by omega)
  · rintro ⟨hstands, hsurrogate, hfirst, hsecond⟩
    rw [← pairAt_cons_succ unit] at hfirst
    refine ⟨hstands, hsurrogate, hfirst, ?_⟩
    intro before hbefore
    -- Only the unit in front is a new neighbour, and only at the first place.
    cases before with
    | zero => exact h (by omega)
    | succ before =>
        rw [pairAt_cons_succ]
        exact hsecond before (by omega)

/-- The units of a character are all paired and leave no half behind for what follows. -/
theorem unpairedAt_ofChar_append {c : Char} {rest : List UInt16} {place : Nat} {unit : UInt16} :
    UnpairedAt (ofChar c ++ rest) place unit ↔
      ∃ behind, place = (ofChar c).length + behind ∧ UnpairedAt rest behind unit := by
  rcases ofChar_cases c with ⟨own, hunits, hhigh, hlow, -⟩ | ⟨high, low, hunits, hhigh, hlow, -⟩
  · have hpair : ¬ PairAt (own :: rest) 0 := not_pairAt_cons_zero hhigh
    rw [hunits, List.singleton_append, List.length_singleton]
    constructor
    · intro h
      cases place with
      | zero =>
          have hsurrogate := h.surrogate
          rw [← Option.some.inj h.stands, hhigh, hlow] at hsurrogate
          simp at hsurrogate
      | succ place =>
          exact ⟨place, Nat.add_comm place 1, (unpairedAt_cons_succ fun _ => hpair).mp h⟩
    · rintro ⟨behind, rfl, h⟩
      rw [Nat.add_comm]
      exact (unpairedAt_cons_succ fun _ => hpair).mpr h
  · have hpair : PairAt (high :: low :: rest) 0 :=
      pairAt_cons_zero.mpr ⟨hhigh, low, rfl, hlow⟩
    -- the second half is no first half of another pair
    have hlast : ¬ PairAt (low :: rest) 0 := not_pairAt_cons_zero (isHigh_eq_false_of_isLow hlow)
    have hskip : ∀ behind, UnpairedAt (high :: low :: rest) (behind + 1 + 1) unit ↔
        UnpairedAt rest behind unit := by
      intro behind
      rw [unpairedAt_cons_succ (by omega), unpairedAt_cons_succ fun _ => hlast]
    rw [hunits, List.cons_append, List.singleton_append]
    constructor
    · intro h
      match place with
      | 0 => exact absurd hpair h.notFirst
      | 1 => exact absurd hpair (h.notSecond 0 rfl)
      | behind + 2 => exact ⟨behind, Nat.add_comm behind 2, (hskip behind).mp h⟩
    · rintro ⟨behind, rfl, h⟩
      rw [List.length_cons, List.length_singleton, Nat.add_comm]
      exact (hskip behind).mpr h

theorem unpairedAt_flatMap_append {chars : List Char} {rest : List UInt16} {place : Nat}
    {unit : UInt16} :
    UnpairedAt (chars.flatMap ofChar ++ rest) place unit ↔
      ∃ behind, place = (chars.flatMap ofChar).length + behind ∧ UnpairedAt rest behind unit := by
  induction chars generalizing place with
  | nil => simp
  | cons c chars ih =>
      rw [List.flatMap_cons, List.append_assoc, unpairedAt_ofChar_append, List.length_append]
      constructor
      · rintro ⟨further, rfl, h⟩
        obtain ⟨behind, rfl, hrest⟩ := ih.mp h
        exact ⟨behind, (Nat.add_assoc _ _ _).symm, hrest⟩
      · rintro ⟨behind, rfl, h⟩
        exact ⟨_, Nat.add_assoc _ _ _, ih.mpr ⟨behind, rfl, h⟩⟩

/-- Joining stops behind whole characters, at a surrogate without a partner. -/
theorem stuck_of_joinOnto {done : List Char} {units : List UInt16} {unit : UInt16}
    (h : joinOnto done units = .error unit) :
    ∃ (chars : List Char) (rest : List UInt16),
      units = chars.flatMap ofChar ++ unit :: rest ∧ UnpairedAt (unit :: rest) 0 unit := by
  -- At the front a surrogate has no partner if it is no first half.
  have hfront : ∀ {unit : UInt16} {rest : List UInt16}, isHigh unit = true ∨ isLow unit = true →
      ¬ PairAt (unit :: rest) 0 → UnpairedAt (unit :: rest) 0 unit := by
    intro unit rest hsurrogate hpair
    exact ⟨rfl, hsurrogate, hpair, fun before hbefore => by omega⟩
  fun_induction joinOnto done units with
  | case1 => simp at h
  | case2 done unit hsurrogate =>
      rw [Bool.or_eq_true] at hsurrogate
      obtain rfl := Except.error.inj h
      refine ⟨[], [], rfl, hfront hsurrogate ?_⟩
      simp [pairAt_cons_zero]
  | case3 => simp at h
  | case4 done unit next rest hhigh hlow ih =>
      obtain ⟨chars, behind, rfl, hunpaired⟩ := ih h
      refine ⟨pair unit next :: chars, behind, ?_, hunpaired⟩
      rw [List.flatMap_cons, ofChar_pair hhigh hlow]
      rfl
  | case5 done unit next rest hhigh hlow =>
      obtain rfl := Except.error.inj h
      refine ⟨[], next :: rest, rfl, hfront (.inl hhigh) ?_⟩
      simpa [pairAt_cons_zero] using fun _ => hlow
  | case6 done unit next rest hhigh hlow =>
      obtain rfl := Except.error.inj h
      rw [Bool.not_eq_true] at hhigh
      exact ⟨[], next :: rest, rfl, hfront (.inr hlow) (not_pairAt_cons_zero hhigh)⟩
  | case7 done unit next rest hhigh hlow ih =>
      simp only [Bool.not_eq_true] at hhigh hlow
      obtain ⟨chars, behind, hrest, hunpaired⟩ := ih h
      refine ⟨Char.ofNat unit.toNat :: chars, behind, ?_, hunpaired⟩
      rw [List.flatMap_cons, ofChar_ofNat hhigh hlow, hrest]
      rfl

theorem firstUnpaired_of_join {units : List UInt16} {unit : UInt16}
    (h : join units = .error unit) : FirstUnpaired units unit := by
  obtain ⟨chars, rest, rfl, hunpaired⟩ := stuck_of_joinOnto h
  refine ⟨_, unpairedAt_flatMap_append.mpr ⟨0, rfl, hunpaired⟩, ?_⟩
  intro before hbefore other hother
  obtain ⟨behind, rfl, -⟩ := unpairedAt_flatMap_append.mp hother
  omega

theorem allPaired_of_join {units : List UInt16} {chars : List Char}
    (h : join units = .ok chars) : AllPaired units := by
  rw [join_eq_ok_iff.mp h, ← List.append_nil (chars.flatMap ofChar)]
  intro place unit hunpaired
  obtain ⟨_, -, hnil⟩ := unpairedAt_flatMap_append.mp hunpaired
  cases hnil.stands

/-- **Units join exactly if every surrogate among them is paired.** -/
theorem exists_join_iff {units : List UInt16} :
    (∃ chars, join units = .ok chars) ↔ AllPaired units := by
  constructor
  · rintro ⟨chars, h⟩
    exact allPaired_of_join h
  · intro hpaired
    cases hjoin : join units with
    | ok chars => exact ⟨chars, rfl⟩
    | error unit =>
        obtain ⟨place, hunpaired, -⟩ := firstUnpaired_of_join hjoin
        exact absurd hunpaired (hpaired place unit)

end ClassPool.Text.Utf16
