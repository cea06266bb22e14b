/-
Equality of pools. Pools are compared as maps are: the same number of entries, and every entry of
one pool has an equal one at its index in the other, in whatever order the two maps keep them
(`MapsAgree`). Entries are equal if they have the same value (`Entry.SameValue`).

Tables ascend. Two of one length in which the indices of one all occur in the other have the same
indices in the same order, so maps that agree agree position by position (`mapsAgree_iff_forall₂`).
As equality of numbers is symmetric and transitive, so is that of pools. But it is not reflexive,
because a NaN differs from itself, and not finer than what is written, because the two zeros are
equal. A pool with neither is equal to itself, and only to itself.
-/
import Mathlib.Data.List.Forall2
import Mathlib.Data.List.Nodup
import Mathlib.Data.List.Perm.Subperm
import ClassPool.Proofs.Entry.Values
import ClassPool.Proofs.Pool.Table

set_option autoImplicit false

namespace ClassPool.Pool

open Entry

/-! ## 1. Maps that agree -/

/-- Maps from keys to entries agree: they have as many entries, and every entry of the first has
the value of the one under its key in the second. The order of entries does not matter. -/
structure MapsAgree {Key : Type} (first second : List (Key × Entry)) : Prop where
  length_eq : first.length = second.length
  agree : ∀ pair ∈ first, ∃ e, (pair.1, e) ∈ second ∧ pair.2.SameValue e

section

variable {Key : Type} {first second third : List (Key × Entry)}

theorem MapsAgree.trans (h : MapsAgree first second) (h' : MapsAgree second third) :
    MapsAgree first third := by
  refine ⟨h.length_eq.trans h'.length_eq, fun pair hpair => ?_⟩
  obtain ⟨e, he, hsame⟩ := h.agree pair hpair
  obtain ⟨e', he', hsame'⟩ := h'.agree (pair.1, e) he
  exact ⟨e', he', hsame.trans hsame'⟩

/-- Keys may be renamed as long as they stay apart. -/
theorem mapsAgree_map_iff {Other : Type} {rename : Key → Other}
    (hrename : Function.Injective rename) :
    MapsAgree (first.map fun pair => (rename pair.1, pair.2))
        (second.map fun pair => (rename pair.1, pair.2)) ↔
      MapsAgree first second := by
  have hmem : ∀ (k : Key) (e : Entry),
      (rename k, e) ∈ second.map (fun pair => (rename pair.1, pair.2)) ↔ (k, e) ∈ second := by
    intro k e
    simp only [List.mem_map, Prod.mk.injEq, hrename.eq_iff]
    exact ⟨fun ⟨pair, hpair, hk, he⟩ => by rwa [← hk, ← he], fun h => ⟨(k, e), h, rfl, rfl⟩⟩
  constructor
  · intro h
    refine ⟨by simpa only [List.length_map] using h.length_eq, fun pair hpair => ?_⟩
    obtain ⟨e, he, hsame⟩ := h.agree _ (List.mem_map_of_mem hpair)
    exact ⟨e, (hmem pair.1 e).mp he, hsame⟩
  · intro h
    refine ⟨by simpa only [List.length_map] using h.length_eq, ?_⟩
    rw [List.forall_mem_map]
    intro pair hpair
    obtain ⟨e, he, hsame⟩ := h.agree pair hpair
    exact ⟨e, (hmem pair.1 e).mpr he, hsame⟩

/-- Under distinct keys the comparison by look-up finds what stands under each key. -/
theorem tablesAgree_iff {first second : List (Nat × Entry)}
    (hsecond : (second.map Prod.fst).Nodup) :
    tablesAgree first second = true ↔ MapsAgree first second := by
  have hdistinct : second.Pairwise fun a b => (a.1 == b.1) = false := by
    rw [List.Nodup, List.pairwise_map] at hsecond
    exact hsecond.imp fun h => beq_eq_false_iff_ne.mpr h
  have hfound : ∀ (index : Nat) (e : Entry), (index, e) ∈ second →
      (Std.HashMap.ofList second)[index]? = some e := by
    intro index e hmem
    exact Std.HashMap.getElem?_ofList_of_mem BEq.rfl hdistinct hmem
  rw [tablesAgree, Bool.and_eq_true, beq_iff_eq, List.all_eq_true]
  constructor
  · rintro ⟨hlength, hall⟩
    refine ⟨hlength, fun ⟨index, own⟩ hpair => ?_⟩
    have hagrees := hall (index, own) hpair
    dsimp only at hagrees
    by_cases hkey : index ∈ second.map Prod.fst
    · obtain ⟨⟨_, e⟩, he, rfl⟩ := List.mem_map.mp hkey
      rw [hfound _ e he] at hagrees
      exact ⟨e, he, agrees_iff.mp hagrees⟩
    · have hnone : (Std.HashMap.ofList second)[index]? = none := by
        apply Std.HashMap.getElem?_ofList_of_contains_eq_false
        rw [← Bool.not_eq_true, List.contains_iff_mem]
        exact hkey
      rw [hnone] at hagrees
      cases hagrees
  · intro h
    refine ⟨h.length_eq, fun ⟨index, own⟩ hpair => ?_⟩
    obtain ⟨e, he, hsame⟩ := h.agree (index, own) hpair
    dsimp only
    rw [hfound index e he]
    exact agrees_iff.mpr hsame

/-! ## 2. Position by position -/

/-- Two pairs have the same index and entries of the same value. -/
def SamePair (a b : Nat × Entry) : Prop :=
  a.1 = b.1 ∧ a.2.SameValue b.2

theorem SamePair.symm {a b : Nat × Entry} (h : SamePair a b) : SamePair b a :=
  ⟨h.1.symm, h.2.symm⟩

theorem mapsAgree_of_forall₂ {first second : List (Nat × Entry)}
    (h : List.Forall₂ SamePair first second) : MapsAgree first second := by
  refine ⟨h.length_eq, ?_⟩
  induction h with
  | nil => simp
  | @cons a b rest rest' hpair _ ih =>
      rw [List.forall_mem_cons]
      refine ⟨⟨b.2, ?_, hpair.2⟩, fun pair hmem => ?_⟩
      · rw [hpair.1]
        exact List.mem_cons_self
      · obtain ⟨e, he, hsame⟩ := ih pair hmem
        exact ⟨e, List.mem_cons_of_mem b he, hsame⟩

/-- Lists with the same keys agree position by position if all that stands under a key has one
value. -/
theorem forall₂_of_keys {first second : List (Nat × Entry)}
    (hkeys : first.map Prod.fst = second.map Prod.fst)
    (hagree : ∀ pair ∈ first, ∀ e, (pair.1, e) ∈ second → pair.2.SameValue e) :
    List.Forall₂ SamePair first second := by
  induction first generalizing second with
  | nil =>
      rw [List.map_nil, eq_comm, List.map_eq_nil_iff] at hkeys
      rw [hkeys]
      exact .nil
  | cons pair rest ih =>
      cases second with
      | nil => cases hkeys
      | cons other rest' =>
          rw [List.map_cons, List.map_cons, List.cons.injEq] at hkeys
          rw [List.forall_mem_cons] at hagree
          refine .cons ⟨hkeys.1, hagree.1 other.2 ?_⟩ (ih hkeys.2 fun pair hmem e he => ?_)
          · rw [hkeys.1]
            exact List.mem_cons_self
          · exact hagree.2 pair hmem e (List.mem_cons_of_mem other he)

/-- **Ascending tables agree as maps exactly if they agree position by position.** -/
theorem mapsAgree_iff_forall₂ {first second : List (Nat × Entry)}
    (hfirst : (first.map Prod.fst).Pairwise (· < ·))
    (hsecond : (second.map Prod.fst).Pairwise (· < ·)) :
    MapsAgree first second ↔ List.Forall₂ SamePair first second := by
  refine ⟨fun h => ?_, mapsAgree_of_forall₂⟩
  have hnodup : (first.map Prod.fst).Nodup := hfirst.imp Nat.ne_of_lt
  have hnodup' : (second.map Prod.fst).Nodup := hsecond.imp Nat.ne_of_lt
  -- The keys of the first are among those of the second, which has no more.
  have hsub : first.map Prod.fst ⊆ second.map Prod.fst := by
    intro k hk
    obtain ⟨pair, hpair, rfl⟩ := List.mem_map.mp hk
    obtain ⟨e, he, -⟩ := h.agree pair hpair
    exact List.mem_map.mpr ⟨(pair.1, e), he, rfl⟩
  have hperm : (first.map Prod.fst).Perm (second.map Prod.fst) := by
    apply (List.subperm_of_subset hnodup hsub).perm_of_length_le
    rw [List.length_map, List.length_map, h.length_eq]
  have hkeys : first.map Prod.fst = second.map Prod.fst :=
    hperm.eq_of_pairwise (fun _ _ _ _ hlt hgt => absurd hlt (Nat.lt_asymm hgt)) hfirst hsecond
  refine forall₂_of_keys hkeys fun pair hpair e he => ?_
  obtain ⟨e', he', hsame⟩ := h.agree pair hpair
  have heq : (pair.1, e) = (pair.1, e') := List.inj_on_of_nodup_map hnodup' he he' rfl
  rw [Prod.mk.injEq] at heq
  rwa [heq.2]

end

/-! ## 3. Pools -/

theorem ascending_table {p : Pool} (h : Fills p.count.toNat p.entries) :
    (p.table.map Prod.fst).Pairwise (· < ·) :=
  (numbered_of_fills h).ascending

theorem agrees_iff_mapsAgree {p q : Pool} (hq : Fills q.count.toNat q.entries) :
    p.agrees q = true ↔ p.count = q.count ∧ p.stop = q.stop ∧ MapsAgree p.table q.table := by
  have hnodup : (q.table.map Prod.fst).Nodup := (ascending_table hq).imp Nat.ne_of_lt
  rw [agrees, Bool.and_eq_true, Bool.and_eq_true, beq_iff_eq, beq_iff_eq, tablesAgree_iff hnodup,
    and_assoc]

theorem agrees_iff_forall₂ {p q : Pool} (hp : Fills p.count.toNat p.entries)
    (hq : Fills q.count.toNat q.entries) :
    p.agrees q = true ↔
      p.count = q.count ∧ p.stop = q.stop ∧ List.Forall₂ SamePair p.table q.table := by
  rw [agrees_iff_mapsAgree hq, mapsAgree_iff_forall₂ (ascending_table hp) (ascending_table hq)]

/-- Keys of two bytes tell entries apart as well as indices do. -/
theorem mapsAgree_keyed_iff {p q : Pool} (hp : Fills p.count.toNat p.entries)
    (hq : Fills q.count.toNat q.entries) :
    MapsAgree p.keyed q.keyed ↔ MapsAgree p.table q.table := by
  have hinjective : Function.Injective UInt16.toNat := fun _ _ => UInt16.toNat_inj.mp
  rw [← keyed_of_fills hp, ← keyed_of_fills hq, mapsAgree_map_iff hinjective]

theorem agrees_self_iff {p : Pool} (h : Fills p.count.toNat p.entries) :
    p.agrees p = true ↔ ∀ e ∈ p.entries, e.isNaN = false := by
  rw [agrees_iff_forall₂ h h, List.forall₂_same]
  simp only [SamePair, true_and, sameValue_self_iff]
  rw [← map_snd_number 1 p.entries, List.forall_mem_map]
  rfl

/-- Without zeros a pool is equal to no other pool. -/
theorem eq_of_agrees {p q : Pool} (hp : Fills p.count.toNat p.entries)
    (hq : Fills q.count.toNat q.entries) (h : p.agrees q = true)
    (hzero : ∀ e ∈ p.entries, e.isZeroFloat = false) : p = q := by
  obtain ⟨hcount, hstop, htables⟩ := (agrees_iff_forall₂ hp hq).mp h
  have hnonzero : ∀ pair ∈ p.table, pair.2.isZeroFloat = false := by
    rwa [← map_snd_number 1 p.entries, List.forall_mem_map] at hzero
  have hboth : List.Forall₂ (fun a b => a.2.isZeroFloat = false ∧ SamePair a b)
      p.table q.table := (List.forall₂_and_left _ _).mpr ⟨hnonzero, htables⟩
  have hsame : List.Forall₂ (· = ·) p.table q.table :=
    hboth.imp fun _ _ h => Prod.ext h.2.1 (h.2.2.eq_of_not_isZeroFloat h.1)
  rw [List.forall₂_eq_eq_eq] at hsame
  have hentries : p.entries = q.entries := by
    rw [← map_snd_number 1 p.entries, ← map_snd_number 1 q.entries]
    exact congrArg (List.map Prod.snd) hsame
  obtain ⟨_, _, _⟩ := p
  obtain ⟨_, _, _⟩ := q
  rw [Pool.mk.injEq]
  exact ⟨hcount, hentries, hstop⟩

/-- **Pools are equal as maps exactly if they are equal position by position.** Equality of pools is
symmetric and transitive. A pool is equal to itself exactly if it holds no NaN, and what is equal
to a pool without zeros is written as that pool is, wherever to. -/
theorem Reachable.agrees_exactly {p q : Pool} (hp : Reachable p) (hq : Reachable q) :
    (p.agrees q = true ↔
      p.count = q.count ∧ p.stop = q.stop ∧ MapsAgree p.keyed q.keyed) ∧
    (p.agrees q = true ↔
      p.count = q.count ∧ p.stop = q.stop ∧
        List.Forall₂ (fun a b => a.1 = b.1 ∧ a.2.SameValue b.2) p.table q.table) ∧
    (p.agrees q = true → q.agrees p = true) ∧
    (∀ r, Reachable r → p.agrees q = true → q.agrees r = true → p.agrees r = true) ∧
    (p.agrees p = true ↔ ∀ e ∈ p.entries, e.isNaN = false) ∧
    (p.agrees q = true → (∀ e ∈ p.entries, e.isZeroFloat = false) →
      ∀ limit, p.write.run limit = q.write.run limit) := by
  have hpfills := hp.fills
  have hqfills := hq.fills
  refine ⟨?_, agrees_iff_forall₂ hpfills hqfills, fun h => ?_, fun r hr h h' => ?_,
    agrees_self_iff hpfills, fun h hzero limit => ?_⟩
  · rw [agrees_iff_mapsAgree hqfills, mapsAgree_keyed_iff hpfills hqfills]
  · obtain ⟨hcount, hstop, htables⟩ := (agrees_iff_forall₂ hpfills hqfills).mp h
    refine (agrees_iff_forall₂ hqfills hpfills).mpr ⟨hcount.symm, hstop.symm, ?_⟩
    exact (htables.imp fun _ _ => SamePair.symm).flip
  · obtain ⟨hcount, hstop, hmaps⟩ := (agrees_iff_mapsAgree hqfills).mp h
    obtain ⟨hcount', hstop', hmaps'⟩ := (agrees_iff_mapsAgree hr.fills).mp h'
    exact (agrees_iff_mapsAgree hr.fills).mpr
      ⟨hcount.trans hcount', hstop.trans hstop', hmaps.trans hmaps'⟩
  · rw [eq_of_agrees hpfills hqfills h hzero]

/-- Pools with different zeros are equal and yet not the same, and a pool with a NaN differs from
itself. -/
theorem agrees_exactly_zeros_and_nan :
    (∃ p q, build [float 0x80000000, long 7] = .ok p ∧ build [float 0, long 7] = .ok q ∧
      p.agrees q = true ∧ q.agrees p = true ∧ p ≠ q) ∧
    ∃ p, build [double 0x7FF8000000000001] = .ok p ∧ p.agrees p = false := by
  constructor
  · have hp : build [float 0x80000000, long 7]
        = .ok ⟨4, [float 0x80000000, long 7], 16⟩ := rfl
    have hq : build [float 0, long 7] = .ok ⟨4, [float 0, long 7], 16⟩ := rfl
    have hzeros : (float 0x80000000).SameValue (float 0) := .float ⟨rfl, rfl, rfl⟩
    have hlong : (long 7).SameValue (long 7) := sameValue_self_iff.mpr rfl
    obtain ⟨-, hpositions, hsymm, -⟩ := (Reachable.built hp).agrees_exactly (.built hq)
    have hagrees := hpositions.mpr
      ⟨rfl, rfl, .cons ⟨rfl, hzeros⟩ (.cons ⟨rfl, hlong⟩ .nil)⟩
    exact ⟨_, _, hp, hq, hagrees, hsymm hagrees, by decide⟩
  · have hp : build [double 0x7FF8000000000001]
        = .ok ⟨3, [double 0x7FF8000000000001], 11⟩ := rfl
    obtain ⟨-, -, -, -, hself, -⟩ := (Reachable.built hp).agrees_exactly (.built hp)
    refine ⟨_, hp, ?_⟩
    rw [← Bool.not_eq_true, hself]
    intro hnumbers
    exact absurd (hnumbers _ List.mem_cons_self) (by decide)

end ClassPool.Pool
