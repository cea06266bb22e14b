/-
What a write delivers. A write that is to succeed, or to fail for a reason of its own, is
described by the bytes that it would deliver if there were room and by its outcome then
(`Writing.Delivers`). Nothing else matters: a sink of limited room gets the same bytes as far
as they fit, and the write fails on it as soon as one does not.

Writes one after the other deliver one after the other (`Delivers.bind`), so the layers above
never look at a sink. On a sink without limit all bytes arrive (`Delivers.run_none`), and on any
other the leading ones (`Delivers.cutsOff`). Two writes that deliver the same are the same write
(`Delivers.unique`), so bytes may just as well be put in pieces (`put_append`).
-/
import ClassPool.Sink

set_option autoImplicit false

namespace ClassPool

/-! ## 1. Sinks that receive bytes -/

namespace Sink

/-- How a write ends that leaves this sink behind. -/
def ending (sink : Sink) : Except WriteError Unit → EStateM.Result WriteError Sink Unit
  | .ok () => .ok () sink
  | .error cause => .error cause sink

/-- How a write ends on this sink that has bytes to deliver and, once they are delivered, ends
with an outcome. -/
def receive (sink : Sink) (bytes : List UInt8) (outcome : Except WriteError Unit) :
    EStateM.Result WriteError Sink Unit :=
  match sink.room with
  | none => ending ⟨none, sink.written ++ bytes⟩ outcome
  | some room =>
    if bytes.length ≤ room then
      ending ⟨some (room - bytes.length), sink.written ++ bytes⟩ outcome
    else .error .sinkFull ⟨some 0, sink.written ++ bytes.take room⟩

theorem written_append (written : Array UInt8) (bytes more : List UInt8) :
    written ++ bytes ++ more = written ++ (bytes ++ more) := by
  apply Array.toList_inj.mp
  simp

end Sink

namespace Writing

/-- A write that delivers bytes and ends with an outcome, as far as there is room. -/
def Delivers (action : Writing) (bytes : List UInt8) (outcome : Except WriteError Unit) : Prop :=
  ∀ sink, action sink = sink.receive bytes outcome

/-! ## 2. Single writes -/

theorem delivers_put (bytes : List UInt8) : Delivers (Sink.put bytes) bytes (.ok ()) := by
  intro sink
  rw [Sink.put, Sink.receive]
  rfl

/-- To do nothing is to deliver nothing. -/
theorem delivers_pure : Delivers (pure ()) [] (.ok ()) := by
  rintro ⟨room, written⟩
  show EStateM.Result.ok () (⟨room, written⟩ : Sink) = _
  cases room with
  | none => simp [Sink.receive, Sink.ending]
  | some room => simp [Sink.receive, Sink.ending]

/-- A failure delivers nothing, and needs no room. -/
theorem delivers_throw (cause : WriteError) : Delivers (throw cause) [] (.error cause) := by
  rintro ⟨room, written⟩
  show EStateM.Result.error cause (⟨room, written⟩ : Sink) = _
  cases room with
  | none => simp [Sink.receive, Sink.ending]
  | some room => simp [Sink.receive, Sink.ending]

/-! ## 3. Writes one after the other -/

/-- A write behind one that succeeds delivers behind it. -/
theorem Delivers.bind {first second : Writing} {bytes more : List UInt8}
    {outcome : Except WriteError Unit} (hfirst : first.Delivers bytes (.ok ()))
    (hsecond : second.Delivers more outcome) :
    Delivers (do first; second) (bytes ++ more) outcome := by
  rintro ⟨room, written⟩
  change EStateM.bind first (fun _ => second) ⟨room, written⟩ = _
  rw [EStateM.bind, hfirst]
  cases room with
  | none =>
      simp only [Sink.receive, Sink.ending, hsecond _, Sink.written_append]
  | some room =>
      -- The second write gets the room that the first leaves, and none if the first did not fit.
      by_cases hfits : bytes.length ≤ room
      · simp only [Sink.receive, if_pos hfits, Sink.ending, hsecond _, Sink.written_append,
          List.length_append]
        by_cases hmore : more.length ≤ room - bytes.length
        · rw [if_pos hmore, if_pos (by omega), Nat.sub_sub]
        · rw [if_neg hmore, if_neg (by omega), List.take_append, List.take_of_length_le hfits]
      · have hall : ¬ (bytes ++ more).length ≤ room := by
          rw [List.length_append]
          omega
        have htake : (bytes ++ more).take room = bytes.take room :=
          List.take_append_of_le_length (by omega)
        simp only [Sink.receive, if_neg hfits, if_neg hall, htake]

/-- Behind a write that fails nothing is delivered. -/
theorem Delivers.bind_error {first second : Writing} {bytes : List UInt8} {cause : WriteError}
    (hfirst : first.Delivers bytes (.error cause)) :
    Delivers (do first; second) bytes (.error cause) := by
  rintro ⟨room, written⟩
  change EStateM.bind first (fun _ => second) ⟨room, written⟩ = _
  rw [EStateM.bind, hfirst]
  cases room with
  | none => simp only [Sink.receive, Sink.ending]
  | some room =>
      by_cases hfits : bytes.length ≤ room
      · simp only [Sink.receive, if_pos hfits, Sink.ending]
      · simp only [Sink.receive, if_neg hfits]

/-! ## 4. Sinks without limit -/

/-- Where there is no limit all bytes arrive and the outcome is the write's own. -/
theorem Delivers.run_none {action : Writing} {bytes : List UInt8}
    {outcome : Except WriteError Unit} (h : action.Delivers bytes outcome) :
    action.run none = ⟨bytes, outcome⟩ := by
  rw [run, EStateM.run, h]
  cases outcome with
  | ok => simp [Sink.receive, Sink.ending, Sink.empty]
  | error cause => simp [Sink.receive, Sink.ending, Sink.empty]

/-! ## 5. Sinks of limited room -/

/-- A write puts its bytes into a sink of limited room as far as they fit. It ends there as it ends
where there is no limit if they all fit, and because the sink is full if they do not. -/
def CutsOff (action : Writing) : Prop :=
  ∀ room,
    (action.run (some room)).bytes
      = (action.run none).bytes.take (min room (action.run none).bytes.length) ∧
    (action.run (some room)).outcome
      = if (action.run none).bytes.length ≤ room then (action.run none).outcome
        else .error .sinkFull

theorem Delivers.run_some_of_le {action : Writing} {bytes : List UInt8}
    {outcome : Except WriteError Unit} (h : action.Delivers bytes outcome) {room : Nat}
    (hfits : bytes.length ≤ room) : action.run (some room) = ⟨bytes, outcome⟩ := by
  rw [run, EStateM.run, h]
  cases outcome with
  | ok => simp [Sink.receive, Sink.ending, Sink.empty, hfits]
  | error cause => simp [Sink.receive, Sink.ending, Sink.empty, hfits]

theorem Delivers.run_some_of_lt {action : Writing} {bytes : List UInt8}
    {outcome : Except WriteError Unit} (h : action.Delivers bytes outcome) {room : Nat}
    (hfull : room < bytes.length) : action.run (some room) = ⟨bytes.take room, .error .sinkFull⟩ := by
  have hnot : ¬ bytes.length ≤ room := by omega
  rw [run, EStateM.run, h]
  simp [Sink.receive, Sink.empty, hnot]

/-- **A sink of limited room gets the leading bytes**, whichever write they come from. -/
theorem Delivers.cutsOff {action : Writing} {bytes : List UInt8}
    {outcome : Except WriteError Unit} (h : action.Delivers bytes outcome) : action.CutsOff := by
  intro room
  rw [h.run_none]
  by_cases hfits : bytes.length ≤ room
  · rw [h.run_some_of_le hfits, if_pos hfits, Nat.min_eq_right hfits, List.take_length]
    exact ⟨rfl, rfl⟩
  · have hfull : room < bytes.length := by omega
    rw [h.run_some_of_lt hfull, if_neg hfits, Nat.min_eq_left (Nat.le_of_lt hfull)]
    exact ⟨rfl, rfl⟩

/-! ## 6. Writes in pieces -/

/-- What a write delivers is all there is to know of it. -/
theorem Delivers.unique {action other : Writing} {bytes : List UInt8}
    {outcome : Except WriteError Unit} (h : action.Delivers bytes outcome)
    (hother : other.Delivers bytes outcome) : action = other := by
  funext sink
  rw [h sink, hother sink]

/-- No sink can tell whether bytes were put at once or in two pieces. -/
theorem put_append (bytes more : List UInt8) :
    Sink.put (bytes ++ more) = (do Sink.put bytes; Sink.put more) :=
  (delivers_put (bytes ++ more)).unique ((delivers_put bytes).bind (delivers_put more))

end Writing

end ClassPool
