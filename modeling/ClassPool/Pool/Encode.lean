/-
Writing a pool: the declared count, then the record of every entry. The first entry that
cannot be written ends the writing, and what reached the sink before stays there.

How many bytes would be written is counted without writing them, from the lengths of the
records. Texts that are too long to be written are counted like all others.
-/
import ClassPool.Entry.Layout
import ClassPool.Pool.Basic

set_option autoImplicit false

namespace ClassPool

/-! ## 1. Lengths -/

namespace Pool

/-- How many bytes the records of entries take together. -/
def recordsLength (entries : List Entry) : Nat :=
  Entry.total Entry.encodedLength entries

@[simp] theorem recordsLength_cons (e : Entry) (rest : List Entry) :
    recordsLength (e :: rest) = e.encodedLength + recordsLength rest :=
  Entry.total_cons Entry.encodedLength e rest

/-- How many bytes a pool of the given entries takes: two for the count, and the records. -/
def encodedLength (entries : List Entry) : Nat :=
  2 + recordsLength entries

end Pool

/-! ## 2. Writing -/

def Entry.writeAll : List Entry → Writing
  | [] => pure ()
  | e :: rest => do
    e.write
    writeAll rest

/-- Writes the count and all records. -/
def Pool.write (p : Pool) : Writing := do
  (Number.u2 p.count).write
  Entry.writeAll p.entries

/-- The encoding of a pool, or why it has none. -/
def Pool.encode (p : Pool) : Except WriteError (List UInt8) :=
  p.write.bytes

end ClassPool
