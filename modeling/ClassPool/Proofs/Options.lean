/-
What options amount to after changes. Each change either says which majors are accepted, which
drops what was accepted before, or adds at most one major behind the others, or has nothing to do
with majors. Hence only two things about a row of changes matter for the majors: the list that was
assigned last (`assigned`) and which majors were allowed behind this assignment (`allowedSince`).

One change is one step of both (`assigned_allow` and its kind), and the list of accepted majors
follows them: behind the assigned list stand the majors that it lacks, in the order in which they
were first allowed (`accepted_applyAll`). So nothing is ever lost or moved, to allow a major again
changes nothing, and which majors are accepted does not depend on the order in which they were
allowed.
-/
import ClassPool.Options
import Mathlib.Data.List.DropRight
import Mathlib.Data.List.Nodup

set_option autoImplicit false

namespace ClassPool.Options

/-! ## 1. What changes say -/

namespace Change

/-- The major that a change adds. -/
def allowed? : Change → Option UInt16
  | .allow major => some major
  | _ => none

/-- The list of majors that a change puts in the place of any other. -/
def assigned? : Change → Option (List UInt16)
  | .acceptOnly majors => some majors
  | _ => none

def announced? : Change → Option Bool
  | .announce on => some on
  | _ => none

end Change

/-- The list of majors that was assigned last, or else that of the options to start from. -/
def assigned (options : Options) (changes : List Change) : List UInt16 :=
  (changes.filterMap Change.assigned?).getLastD options.accepted

/-- What was said last about announcing files, or else what the options to start from say. -/
def announced (options : Options) (changes : List Change) : Bool :=
  (changes.filterMap Change.announced?).getLastD options.announce

/-- Every major that was allowed behind the last assignment, in order. -/
def allowedSince (changes : List Change) : List UInt16 :=
  (changes.rtakeWhile fun change => change.assigned?.isNone).filterMap Change.allowed?

/-- The members of a row that a list lacks, each at its first place. -/
def newcomers (majors row : List UInt16) : List UInt16 :=
  (row.filter fun major => major ∉ majors).eraseDups

/-- No list of majors is assigned. -/
def AssignsNothing (changes : List Change) : Prop :=
  ∀ change ∈ changes, change.assigned? = none

section Steps

variable (options : Options) (changes : List Change)

@[simp] theorem assigned_nil : assigned options [] = options.accepted := rfl

@[simp] theorem assigned_allow (major : UInt16) :
    assigned options (changes ++ [.allow major]) = assigned options changes := by
  simp [assigned, Change.assigned?]

@[simp] theorem assigned_announce (on : Bool) :
    assigned options (changes ++ [.announce on]) = assigned options changes := by
  simp [assigned, Change.assigned?]

@[simp] theorem assigned_acceptOnly (majors : List UInt16) :
    assigned options (changes ++ [.acceptOnly majors]) = majors := by
  simp [assigned, Change.assigned?]

@[simp] theorem announced_allow (major : UInt16) :
    announced options (changes ++ [.allow major]) = announced options changes := by
  simp [announced, Change.announced?]

@[simp] theorem announced_announce (on : Bool) :
    announced options (changes ++ [.announce on]) = on := by
  simp [announced, Change.announced?]

@[simp] theorem announced_acceptOnly (majors : List UInt16) :
    announced options (changes ++ [.acceptOnly majors]) = announced options changes := by
  simp [announced, Change.announced?]

@[simp] theorem allowedSince_nil : allowedSince [] = [] := rfl

@[simp] theorem allowedSince_allow (major : UInt16) :
    allowedSince (changes ++ [.allow major]) = allowedSince changes ++ [major] := by
  simp [allowedSince, Change.assigned?, Change.allowed?]

@[simp] theorem allowedSince_announce (on : Bool) :
    allowedSince (changes ++ [.announce on]) = allowedSince changes := by
  simp [allowedSince, Change.assigned?, Change.allowed?]

@[simp] theorem allowedSince_acceptOnly (majors : List UInt16) :
    allowedSince (changes ++ [.acceptOnly majors]) = [] := by
  simp [allowedSince, Change.assigned?]

end Steps

/-! ## 2. Newcomers -/

theorem mem_newcomers {majors row : List UInt16} {major : UInt16} :
    major ∈ newcomers majors row ↔ major ∈ row ∧ major ∉ majors := by
  simp [newcomers]

/-- A longer row brings behind the newcomers of its front those of its back that are still missing. -/
theorem newcomers_append (majors front back : List UInt16) :
    newcomers majors (front ++ back)
      = newcomers majors front ++ newcomers (majors ++ newcomers majors front) back := by
  rw [newcomers, List.filter_append, List.eraseDups_append, newcomers, newcomers, List.removeAll,
    List.filter_filter]
  congr 2
  apply List.filter_congr
  intro major _
  by_cases hold : major ∈ majors
  · simp [hold]
  · simp [hold]

theorem newcomers_singleton_of_mem {majors : List UInt16} {major : UInt16} (h : major ∈ majors) :
    newcomers majors [major] = [] := by
  simp [newcomers, h]

theorem newcomers_singleton_of_not_mem {majors : List UInt16} {major : UInt16}
    (h : major ∉ majors) : newcomers majors [major] = [major] := by
  simp [newcomers, h, List.eraseDups_cons]

/-- Newcomers stand in the order of their first places in the row. -/
theorem pairwise_newcomers (majors row : List UInt16) :
    (newcomers majors row).Pairwise fun first second => row.idxOf first < row.idxOf second := by
  induction row using List.reverseRecOn with
  | nil => exact List.Pairwise.nil
  | append_singleton row major ih =>
      have hfront : (newcomers majors row).Pairwise fun first second =>
          (row ++ [major]).idxOf first < (row ++ [major]).idxOf second := by
        refine ih.imp_of_mem fun hfirst hsecond hlt => ?_
        rwa [List.idxOf_append_of_mem (mem_newcomers.mp hfirst).1,
          List.idxOf_append_of_mem (mem_newcomers.mp hsecond).1]
      rw [newcomers_append]
      by_cases h : major ∈ majors ++ newcomers majors row
      · rwa [newcomers_singleton_of_mem h, List.append_nil]
      · rw [newcomers_singleton_of_not_mem h]
        -- What is new behind the row has its first place there.
        have hnew : major ∉ row := by
          rw [List.mem_append, mem_newcomers] at h
          tauto
        refine List.pairwise_append.mpr ⟨hfront, List.pairwise_singleton _ major, ?_⟩
        intro first hfirst second hsecond
        have hrow := (mem_newcomers.mp hfirst).1
        rw [List.mem_singleton.mp hsecond, List.idxOf_append_of_mem hrow,
          List.idxOf_append_of_notMem hnew]
        have hlt := List.idxOf_lt_length_of_mem hrow
        omega

theorem nodup_newcomers (majors row : List UInt16) : (newcomers majors row).Nodup := by
  refine (pairwise_newcomers majors row).imp fun hlt heq => ?_
  rw [heq] at hlt
  exact Nat.lt_irrefl _ hlt

/-! ## 3. One change -/

theorem accepts_iff {options : Options} {major : UInt16} :
    options.accepts major = true ↔ major ∈ options.accepted := by
  unfold accepts
  exact List.contains_iff_mem

/-- To allow a major puts it behind the others if it is not among them. -/
theorem accepted_allow (options : Options) (major : UInt16) :
    (options.allow major).accepted
      = options.accepted ++ newcomers options.accepted [major] := by
  unfold allow
  by_cases h : major ∈ options.accepted
  · rw [if_pos (accepts_iff.mpr h), newcomers_singleton_of_mem h, List.append_nil]
  · rw [if_neg (mt accepts_iff.mp h), newcomers_singleton_of_not_mem h]

@[simp] theorem announce_allow (options : Options) (major : UInt16) :
    (options.allow major).announce = options.announce := by
  unfold allow
  split <;> rfl

theorem allow_of_accepts {options : Options} {major : UInt16}
    (h : options.accepts major = true) : options.allow major = options :=
  if_pos h

theorem accepts_allow (options : Options) (allowed major : UInt16) :
    (options.allow allowed).accepts major = true ↔
      options.accepts major = true ∨ major = allowed := by
  rw [accepts_iff, accepted_allow, List.mem_append, mem_newcomers, List.mem_singleton, accepts_iff]
  tauto

/-- To make the same change twice is to make it once. -/
theorem apply_apply (options : Options) (change : Change) :
    (options.apply change).apply change = options.apply change := by
  cases change with
  | allow major => exact allow_of_accepts ((accepts_allow options major major).mpr (.inr rfl))
  | acceptOnly majors => rfl
  | announce on => rfl

/-! ## 4. Rows of changes -/

theorem applyAll_append (options : Options) (changes more : List Change) :
    options.applyAll (changes ++ more) = (options.applyAll changes).applyAll more :=
  List.foldl_append

/-- **The accepted majors** are the list that was assigned last and behind it, in the order in which
they were first allowed since, the majors that it lacks. -/
theorem accepted_applyAll (options : Options) (changes : List Change) :
    (options.applyAll changes).accepted
      = assigned options changes ++ newcomers (assigned options changes) (allowedSince changes) := by
  induction changes using List.reverseRecOn with
  | nil => exact (List.append_nil _).symm
  | append_singleton changes change ih =>
      rw [applyAll_append]
      cases change with
      | allow major =>
          have hstep := accepted_allow (options.applyAll changes) major
          rw [ih] at hstep
          rw [assigned_allow, allowedSince_allow, newcomers_append, ← List.append_assoc]
          exact hstep
      | acceptOnly majors =>
          rw [assigned_acceptOnly, allowedSince_acceptOnly]
          exact (List.append_nil majors).symm
      | announce on =>
          rw [assigned_announce, allowedSince_announce]
          exact ih

/-- Whether files are announced is what was said last. -/
theorem announce_applyAll (options : Options) (changes : List Change) :
    (options.applyAll changes).announce = announced options changes := by
  induction changes using List.reverseRecOn with
  | nil => rfl
  | append_singleton changes change ih =>
      rw [applyAll_append]
      cases change with
      | allow major =>
          rw [announced_allow]
          exact (announce_allow _ major).trans ih
      | acceptOnly majors =>
          rw [announced_acceptOnly]
          exact ih
      | announce on =>
          rw [announced_announce]
          rfl

theorem accepts_applyAll (options : Options) (changes : List Change) (major : UInt16) :
    (options.applyAll changes).accepts major = true ↔
      major ∈ assigned options changes ∨ major ∈ allowedSince changes := by
  rw [accepts_iff, accepted_applyAll, List.mem_append, mem_newcomers]
  tauto

theorem nodup_applyAll {options : Options} {changes : List Change}
    (h : (assigned options changes).Nodup) : (options.applyAll changes).accepted.Nodup := by
  rw [accepted_applyAll]
  refine h.append (nodup_newcomers _ _) ?_
  intro major hold hnew
  exact (mem_newcomers.mp hnew).2 hold

/-! ## 5. Rows of changes without assignments -/

theorem assigned_append {changes more : List Change} (h : AssignsNothing more)
    (options : Options) : assigned options (changes ++ more) = assigned options changes := by
  have hnone : more.filterMap Change.assigned? = [] := List.filterMap_eq_nil_iff.mpr h
  rw [assigned, List.filterMap_append, hnone, List.append_nil, assigned]

theorem allowedSince_append {more : List Change} (h : AssignsNothing more)
    (changes : List Change) :
    allowedSince (changes ++ more) = allowedSince changes ++ more.filterMap Change.allowed? := by
  induction more using List.reverseRecOn with
  | nil => simp
  | append_singleton more change ih =>
      have hmore : AssignsNothing more := fun other hother =>
        h other (List.mem_append_left [change] hother)
      have hchange : change.assigned? = none := h change (by simp)
      rw [← List.append_assoc, List.filterMap_append, ← List.append_assoc, ← ih hmore]
      cases change with
      | allow major => exact allowedSince_allow (changes ++ more) major
      | acceptOnly majors => cases hchange
      | announce on =>
          rw [allowedSince_announce]
          exact (List.append_nil _).symm

/-- What is accepted stays accepted, and in its place. -/
theorem accepted_prefix_of_assignsNothing {more : List Change} (h : AssignsNothing more)
    (options : Options) (changes : List Change) :
    (options.applyAll changes).accepted <+: (options.applyAll (changes ++ more)).accepted := by
  rw [accepted_applyAll, accepted_applyAll, assigned_append h, allowedSince_append h,
    newcomers_append, ← List.append_assoc]
  exact List.prefix_append _ _

theorem accepts_applyAll_of_assignsNothing {row : List Change} (h : AssignsNothing row)
    (options : Options) (major : UInt16) :
    (options.applyAll row).accepts major = true ↔
      options.accepts major = true ∨ major ∈ row.filterMap Change.allowed? := by
  have hassigned : assigned options ([] ++ row) = assigned options [] := assigned_append h options
  have hallowed : allowedSince ([] ++ row) = allowedSince [] ++ row.filterMap Change.allowed? :=
    allowedSince_append h []
  rw [List.nil_append, assigned_nil] at hassigned
  rw [List.nil_append, allowedSince_nil, List.nil_append] at hallowed
  rw [accepts_applyAll, hassigned, hallowed, accepts_iff]

theorem accepts_applyAll_allow (options : Options) (majors : List UInt16) (major : UInt16) :
    (options.applyAll (majors.map .allow)).accepts major = true ↔
      options.accepts major = true ∨ major ∈ majors := by
  have hfree : AssignsNothing (majors.map .allow) := by
    intro change hchange
    obtain ⟨allowed, -, rfl⟩ := List.mem_map.mp hchange
    rfl
  have hallowed : (majors.map Change.allow).filterMap Change.allowed? = majors := by
    rw [List.filterMap_map]
    exact List.filterMap_some
  rw [accepts_applyAll_of_assignsNothing hfree, hallowed]

/-- Changes keep apart no options that accept the same majors. -/
theorem accepts_applyAll_congr {options other : Options}
    (h : ∀ major, options.accepts major = other.accepts major) (changes : List Change)
    (major : UInt16) :
    (options.applyAll changes).accepts major = (other.applyAll changes).accepts major := by
  induction changes generalizing options other with
  | nil => exact h major
  | cons change changes ih =>
      refine ih fun major => ?_
      cases change with
      | allow allowed =>
          rw [Bool.eq_iff_iff, apply, apply, accepts_allow, accepts_allow, h]
      | acceptOnly majors => rfl
      | announce on => exact h major

/-- Which majors are accepted does not depend on the order in which they were allowed. -/
theorem accepts_applyAll_perm {row other : List Change} (hperm : row.Perm other)
    (hfree : AssignsNothing row) (options : Options) (major : UInt16) :
    (options.applyAll row).accepts major = (options.applyAll other).accepts major := by
  have hother : AssignsNothing other := fun change hchange =>
    hfree change (hperm.mem_iff.mpr hchange)
  rw [Bool.eq_iff_iff, accepts_applyAll_of_assignsNothing hfree,
    accepts_applyAll_of_assignsNothing hother, (hperm.filterMap Change.allowed?).mem_iff]

/-! ## 6. Any row of changes -/

/-- What a row of changes makes of options. -/
structure ChangeLaw (options : Options) (changes : List Change) : Prop where
  /-- Behind the list that was assigned last stand the majors that it lacks, each once and in the
  order in which they were first allowed since. -/
  accepted : (options.applyAll changes).accepted
    = assigned options changes ++ newcomers (assigned options changes) (allowedSince changes)
  ordered : (newcomers (assigned options changes) (allowedSince changes)).Pairwise
    fun first second =>
      (allowedSince changes).idxOf first < (allowedSince changes).idxOf second
  announce : (options.applyAll changes).announce = announced options changes
  accepts_iff : ∀ major, (options.applyAll changes).accepts major = true ↔
    major ∈ assigned options changes ∨ major ∈ allowedSince changes
  /-- Until another list is assigned nothing is lost and nothing is moved. -/
  grows : ∀ more, AssignsNothing more →
    (options.applyAll changes).accepted <+: (options.applyAll (changes ++ more)).accepted
  /-- To allow a major again changes nothing. -/
  repeated : ∀ major, major ∈ assigned options changes ∨ major ∈ allowedSince changes →
    options.applyAll (changes ++ [.allow major]) = options.applyAll changes
  /-- Nor does any change that is made twice in a row. -/
  twice : ∀ change, options.applyAll (changes ++ [change, change])
    = options.applyAll (changes ++ [change])
  /-- Between two assignments the order of the changes is of no consequence for what is accepted,
  then and later. -/
  reordered : ∀ row other, row.Perm other → AssignsNothing row → ∀ more major,
    (options.applyAll (changes ++ row ++ more)).accepts major
      = (options.applyAll (changes ++ other ++ more)).accepts major
  nodup : (assigned options changes).Nodup → (options.applyAll changes).accepted.Nodup

/-- **Options are told by the last assignment and by what was allowed since.** -/
theorem changeLaw (options : Options) (changes : List Change) : ChangeLaw options changes := by
  refine ⟨accepted_applyAll options changes, pairwise_newcomers _ _,
    announce_applyAll options changes, accepts_applyAll options changes, ?_, ?_, ?_, ?_,
    nodup_applyAll⟩
  · intro more hmore
    exact accepted_prefix_of_assignsNothing hmore options changes
  · intro major hmajor
    rw [applyAll_append]
    exact allow_of_accepts ((accepts_applyAll options changes major).mpr hmajor)
  · intro change
    rw [applyAll_append, applyAll_append]
    exact apply_apply _ change
  · intro row other hperm hfree more major
    simp only [applyAll_append]
    exact accepts_applyAll_congr (accepts_applyAll_perm hperm hfree _) more major

/-- An assigned list with a repetition keeps it. What was allowed in front of the assignment is gone,
and what was allowed behind it comes in the order of the first calls. -/
theorem changeLaw_repetition_in_assigned :
    ∃ changes : List Change,
      changes = [.allow 60, .acceptOnly [52, 52], .allow 61, .announce false, .allow 55, .allow 52,
        .allow 61] ∧
      (standard.applyAll changes).accepted = [52, 52, 61, 55] ∧
      (standard.applyAll changes).announce = false ∧
      (standard.applyAll changes).accepts 60 = false ∧
      [52, 52, 61, 55] <+: (standard.applyAll (changes ++ [.allow 60])).accepted ∧
      standard.applyAll (changes ++ [.allow 61]) = standard.applyAll changes ∧
      (standard.applyAll (changes ++ [.allow 60, .allow 70] ++ [.announce true])).accepts 60
        = (standard.applyAll (changes ++ [.allow 70, .allow 60] ++ [.announce true])).accepts 60 ∧
      (standard.applyAll [.allow 60]).accepted.Nodup := by
  have hlaw := changeLaw standard [.allow 60, .acceptOnly [52, 52], .allow 61, .announce false,
    .allow 55, .allow 52, .allow 61]
  have haccepted := hlaw.accepted
  have hrefused := mt (hlaw.accepts_iff 60).mp (by decide)
  have hgrows := hlaw.grows [.allow 60] (by simp [AssignsNothing, Change.assigned?])
  rw [haccepted] at hgrows
  exact ⟨_, rfl, haccepted, hlaw.announce, Bool.eq_false_iff.mpr hrefused, hgrows,
    hlaw.repeated 61 (.inr (by decide)),
    hlaw.reordered _ _ (.swap _ _ []) (by simp [AssignsNothing, Change.assigned?]) _ 60,
    (changeLaw standard [.allow 60]).nodup (by decide)⟩

end ClassPool.Options
