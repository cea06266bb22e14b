/-
Writing to a place of limited room. A `Sink` remembers what reached it and how much more
it takes. A write that does not fit delivers the bytes that do and then fails, and what was
delivered stays delivered: the failing state is kept, which is why writing is a state that
survives errors and not a function that returns all bytes or none.

A write of no bytes always succeeds, also where no room is left.
-/
import ClassPool.Numeral

set_option autoImplicit false

namespace ClassPool

/-- Why writing stopped. -/
inductive WriteError where
  | sinkFull
  /-- The text of a constant needs more bytes than its two-byte length can announce. -/
  | textTooLong (length : Nat)
  deriving Repr, DecidableEq

namespace WriteError

/-- The wording of the error; the length of an over-long text is given in bytes. -/
def message : WriteError → String
  | sinkFull => "failed to write whole buffer"
  | textTooLong length => "Utf8 constant of " ++ Numeral.decimal length ++ " bytes exceeds 65535 bytes"

end WriteError

/-- A place for bytes. -/
structure Sink where
  /-- How many more bytes fit; `none` when there is no limit. -/
  room : Option Nat
  written : Array UInt8
  deriving Repr, DecidableEq

/-- An action that writes to a sink and may fail; the sink is kept in either case. -/
abbrev Writing : Type :=
  EStateM WriteError Sink Unit

namespace Sink

/-- A sink that has received nothing yet and takes at most `limit` bytes. -/
def empty (limit : Option Nat) : Sink :=
  ⟨limit, #[]⟩

/-- Delivers bytes. Those that fit arrive; if some do not, the write fails after the last that does. -/
def put (bytes : List UInt8) : Writing := fun sink =>
  match sink.room with
  | none => .ok () ⟨none, sink.written ++ bytes⟩
  | some room =>
    if bytes.length ≤ room then
      .ok () ⟨some (room - bytes.length), sink.written ++ bytes⟩
    else
      .error .sinkFull ⟨some 0, sink.written ++ bytes.take room⟩

end Sink

/-- What a write left behind: the bytes that arrived and how it ended. -/
structure Written where
  bytes : List UInt8
  outcome : Except WriteError Unit

/-- Runs a write on an empty sink that takes at most `limit` bytes. -/
def Writing.run (action : Writing) (limit : Option Nat) : Written :=
  match EStateM.run action (Sink.empty limit) with
  | .ok _ sink => ⟨sink.written.toList, .ok ()⟩
  | .error cause sink => ⟨sink.written.toList, .error cause⟩

/-- The bytes that a write delivers where room does not matter, or why it cannot be completed. -/
def Writing.bytes (action : Writing) : Except WriteError (List UInt8) :=
  let written := action.run none
  written.outcome.map fun _ => written.bytes

end ClassPool
