/-
The constant pool. A pool is a sequence of entries; the index of an entry is one more than
the slots taken by all entries before it, so the sequence alone determines every index and
the slot behind a long or a double belongs to no entry. Beside its entries a pool has the
count that a class file declares, one more than the greatest slot, and the offset at which
its encoding ends.

`table` is the view that everything else is said in: the pairs of index and entry in
ascending order of index. `keyed` is the map that comes about when the entries are put one
after the other under keys of two bytes, and nothing in it keeps an entry from being replaced
by one that comes later. That it holds the table is a fact about the pools that there are.
-/
import ClassPool.Entry.Basic
import Std.Data.HashMap

set_option autoImplicit false

namespace ClassPool

namespace Entry

/-! ## 1. Numbered entries -/

/-- Pairs entries with their indices behind pairs that are already known, the latest first. -/
def numberOnto (done : List (Nat × Entry)) (index : Nat) : List Entry → List (Nat × Entry)
  | [] => done.reverse
  | e :: rest => numberOnto ((index, e) :: done) (index + e.slots) rest

/-- Pairs entries with their indices, the first of which is given. -/
def number (index : Nat) (entries : List Entry) : List (Nat × Entry) :=
  numberOnto [] index entries

theorem numberOnto_eq (done : List (Nat × Entry)) (index : Nat) (entries : List Entry) :
    numberOnto done index entries = done.reverse ++ number index entries := by
  induction entries generalizing done index with
  | nil => simp [numberOnto, number]
  | cons e rest ih =>
    rw [numberOnto, number, numberOnto, ih, ih [(index, e)]]
    simp

@[simp] theorem number_nil (index : Nat) : number index [] = [] := rfl

/-- The next entry follows after the slots of this one. -/
@[simp] theorem number_cons (index : Nat) (e : Entry) (rest : List Entry) :
    number index (e :: rest) = (index, e) :: number (index + e.slots) rest := by
  rw [number, numberOnto, numberOnto_eq]
  rfl

/-- The sum of a quantity over entries. -/
def total (quantity : Entry → Nat) (entries : List Entry) : Nat :=
  entries.foldl (fun sum e => sum + quantity e) 0

theorem foldl_quantity (quantity : Entry → Nat) (entries : List Entry) (start : Nat) :
    entries.foldl (fun sum e => sum + quantity e) start = start + total quantity entries := by
  induction entries generalizing start with
  | nil => rfl
  | cons e rest ih =>
    rw [total, List.foldl_cons, List.foldl_cons, ih, ih (0 + quantity e)]
    omega

@[simp] theorem total_nil (quantity : Entry → Nat) : total quantity [] = 0 := rfl

@[simp] theorem total_cons (quantity : Entry → Nat) (e : Entry) (rest : List Entry) :
    total quantity (e :: rest) = quantity e + total quantity rest := by
  rw [total, List.foldl_cons, foldl_quantity]
  omega

@[simp] theorem total_append (quantity : Entry → Nat) (front back : List Entry) :
    total quantity (front ++ back) = total quantity front + total quantity back := by
  rw [total, List.foldl_append, foldl_quantity]
  rfl

/-- How many slots entries take together. -/
def totalSlots (entries : List Entry) : Nat :=
  total slots entries

@[simp] theorem totalSlots_nil : totalSlots [] = 0 := rfl

@[simp] theorem totalSlots_cons (e : Entry) (rest : List Entry) :
    totalSlots (e :: rest) = e.slots + totalSlots rest :=
  total_cons slots e rest

theorem totalSlots_append (front back : List Entry) :
    totalSlots (front ++ back) = totalSlots front + totalSlots back :=
  total_append slots front back

/-! ## 2. Entries under keys of two bytes -/

/-- Puts an entry under a key of two bytes: behind all others, or in the place of the entry that
has the key already. -/
def put (key : UInt16) (e : Entry) : List (UInt16 × Entry) → List (UInt16 × Entry)
  | [] => [(key, e)]
  | pair :: rest => if pair.1 = key then (key, e) :: rest else pair :: put key e rest

theorem put_of_fresh {key : UInt16} {done : List (UInt16 × Entry)}
    (h : ∀ pair ∈ done, pair.1 ≠ key) (e : Entry) : put key e done = done ++ [(key, e)] := by
  induction done with
  | nil => rfl
  | cons pair rest ih =>
      rw [List.forall_mem_cons] at h
      rw [put, if_neg h.1, ih h.2, List.cons_append]

/-- Puts entries one after the other, each under the lower two bytes of its index. -/
def putAll (done : List (UInt16 × Entry)) (index : Nat) : List Entry → List (UInt16 × Entry)
  | [] => done
  | e :: rest => putAll (put (UInt16.ofNat index) e done) (index + e.slots) rest

/-- Putting entries is putting the pairs of the table that numbers them. -/
theorem putAll_eq_foldl (done : List (UInt16 × Entry)) (index : Nat) (entries : List Entry) :
    putAll done index entries
      = (number index entries).foldl (fun done pair => put (UInt16.ofNat pair.1) pair.2 done)
          done := by
  induction entries generalizing done index with
  | nil => rfl
  | cons e rest ih => rw [putAll, ih, number_cons, List.foldl_cons]

end Entry

/-! ## 3. Pools -/

structure Pool where
  count : UInt16
  /-- The entries in the order of their indices. -/
  entries : List Entry
  /-- The offset of the first byte behind the last entry. -/
  stop : Nat
  deriving DecidableEq

namespace Pool

/-- The pool that was neither built nor decoded: it declares nothing and ends where it starts. -/
def blank : Pool := ⟨0, [], 0⟩

/-- The pairs of index and entry, in ascending order. Indices start at one. -/
def table (p : Pool) : List (Nat × Entry) :=
  Entry.number 1 p.entries

/-- The table as a map with keys of two bytes, in the order in which they were put there. -/
def keyed (p : Pool) : List (UInt16 × Entry) :=
  Entry.putAll [] 1 p.entries

/-- The number of entries; the second slots of longs and doubles do not count. -/
def size (p : Pool) : Nat :=
  p.entries.length

def isEmpty (p : Pool) : Bool :=
  p.entries.isEmpty

def slotCount (p : Pool) : Nat :=
  Entry.totalSlots p.entries

def get? (p : Pool) (index : Nat) : Option Entry :=
  p.table.lookup index

/-- The text at an index, if a text constant stands there. -/
def getText? (p : Pool) (index : Nat) : Option String :=
  (p.get? index).bind Entry.text?

/-- Whether two tables have the same number of entries and every entry of the first agrees with
the one at its index in the second. -/
def tablesAgree (first second : List (Nat × Entry)) : Bool :=
  let byIndex := Std.HashMap.ofList second
  first.length == second.length &&
    first.all fun (index, e) =>
      match byIndex[index]? with
      | some other => e.agrees other
      | none => false

/-- Equality of pools: the same count, the same end, and tables that agree. Floats count as
numbers, so a pool with a NaN in it differs from itself. -/
def agrees (p q : Pool) : Bool :=
  p.count == q.count && p.stop == q.stop && tablesAgree p.table q.table

end Pool

end ClassPool
