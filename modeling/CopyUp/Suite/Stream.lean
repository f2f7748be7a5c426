import CopyUp.Suite.Console

/-!
# Writing in pieces

A line is written piece by piece, and a stream need not take all that it is offered: what it leaves
is offered again, until all is taken or the stream refuses. How a line is parted, and how much the
stream takes at once, makes no difference to what a stream with a limit holds in the end.
-/

namespace CopyUp

/-- How bytes get to a stream. -/
structure Manner where
  /-- The pieces in which bytes are written. -/
  pieces : Bytes → List Bytes
  flatten_pieces : ∀ bytes, (pieces bytes).flatten = bytes
  /-- How many of the offered bytes a stream would take at once. -/
  portion : Sink → Bytes → Nat

namespace Sink

/-- How many of the offered bytes a stream with room takes: one at least, and never more than
fit. -/
def taken (portion : Sink → Bytes → Nat) (sink : Sink) (bytes : Bytes) : Nat :=
  max 1 (min (portion sink bytes) (sink.room bytes.length))

/-- Offers bytes once, and tells which are left. A stream without room refuses. -/
def offer (portion : Sink → Bytes → Nat) (sink : Sink) (bytes : Bytes) : Option (Sink × Bytes) :=
  if sink.room bytes.length = 0 then none
  else
    let count := sink.taken portion bytes
    some ({ sink with held := sink.held ++ bytes.take count }, bytes.drop count)

theorem room_le (sink : Sink) (wanted : Nat) : sink.room wanted ≤ wanted := by
  unfold room
  split <;> omega

theorem taken_le {portion : Sink → Bytes → Nat} {sink : Sink} {bytes : Bytes}
    (room : sink.room bytes.length ≠ 0) : sink.taken portion bytes ≤ sink.room bytes.length := by
  unfold taken
  omega

theorem length_lt_of_offer {portion : Sink → Bytes → Nat} {sink next : Sink} {bytes left : Bytes}
    (offered : sink.offer portion bytes = some (next, left)) : left.length < bytes.length := by
  have fits := sink.room_le bytes.length
  by_cases room : sink.room bytes.length = 0
  · simp [offer, room] at offered
  · have some : 0 < sink.taken portion bytes := Nat.le_max_left ..
    simp only [offer, room, if_false, Option.some.injEq, Prod.mk.injEq] at offered
    rw [← offered.2, List.length_drop]
    omega

/-- Offers bytes until all are taken, and tells whether they were. -/
def writeAll (portion : Sink → Bytes → Nat) (sink : Sink) (bytes : Bytes) : Sink × Bool :=
  if bytes = [] then (sink, true)
  else
    match _offered : sink.offer portion bytes with
    | none => (sink, false)
    | some (next, left) => next.writeAll portion left
termination_by bytes.length
decreasing_by exact length_lt_of_offer _offered

/-- Writes one piece after another, up to the first that is not taken whole. -/
def writePieces (portion : Sink → Bytes → Nat) : Sink → List Bytes → Sink × Bool
  | sink, [] => (sink, true)
  | sink, piece :: rest =>
    match sink.writeAll portion piece with
    | (next, true) => next.writePieces portion rest
    | (next, false) => (next, false)

end Sink

def Manner.write (manner : Manner) (sink : Sink) (bytes : Bytes) : Sink × Bool :=
  sink.writePieces manner.portion (manner.pieces bytes)

/-- Receives a notice whose lines are written in this manner. -/
def Console.receiveIn (manner : Manner) (console : Console) (notice : Notice) :
    Console × List LogLine :=
  let (out, outWhole) := manner.write console.out ((outLine notice).elim [] Bytes.ofText)
  let (err, errWhole) := manner.write console.err ((errLine notice).elim [] Bytes.ofText)
  let next := { console with out, err }
  if outWhole && errWhole then
    match notice, console.flushed with
    | .suiteFinished _, .error error => (next, (complaint error notice).toList)
    | _, _ => (next, [])
  else (next, (complaint full notice).toList)

/-! ## The manner makes no difference -/

namespace Sink

variable {sink : Sink}

theorem write_of_fits {bytes : Bytes} (fits : sink.room bytes.length = bytes.length) :
    sink.write bytes = ({ sink with held := sink.held ++ bytes }, true) := by
  simp [write, fits]

theorem write_of_cut {bytes : Bytes} (cut : sink.room bytes.length ≠ bytes.length) :
    sink.write bytes =
      ({ sink with held := sink.held ++ bytes.take (sink.room bytes.length) }, false) := by
  simp [write, cut]

theorem room_of_le {count wanted : Nat} (le : count ≤ sink.room wanted) :
    sink.room count = count := by
  unfold room at le ⊢
  split at le
  · rfl
  · omega

/-- What fits behind bytes that fit themselves. -/
theorem room_append {first : Bytes} (fits : sink.room first.length = first.length)
    (wanted : Nat) :
    sink.room (first.length + wanted) =
      first.length + { sink with held := sink.held ++ first }.room wanted := by
  have ⟨limit, held⟩ := sink
  cases limit with
  | none => rfl
  | some limit =>
    simp only [room, List.length_append] at fits ⊢
    omega

/-- Behind bytes that do not fit there is no room. -/
theorem room_of_cut {size : Nat} (cut : sink.room size ≠ size) (more : Nat) :
    sink.room (size + more) = sink.room size := by
  unfold room at cut ⊢
  split at cut
  · contradiction
  · omega

@[simp] theorem write_nil (sink : Sink) : sink.write [] = (sink, true) := by
  rw [write_of_fits (Nat.le_zero.1 (sink.room_le 0)), List.append_nil]

/-- A stream takes the first bytes, and what fits of the others if it could take all of those. -/
theorem write_append (sink : Sink) (first second : Bytes) :
    sink.write (first ++ second) =
      match sink.write first with
      | (next, true) => next.write second
      | (next, false) => (next, false) := by
  have size : (first ++ second).length = first.length + second.length := List.length_append
  by_cases fits : sink.room first.length = first.length
  · have room := room_append fits second.length
    rw [write_of_fits fits]
    simp only [write, size, room, List.take_length_add_append, List.append_assoc,
      Nat.add_right_inj]
  · have room := room_of_cut fits second.length
    have most := sink.room_le first.length
    have short : sink.room first.length ≠ first.length + second.length := by omega
    rw [write_of_cut fits]
    simp only [write, size, room, short, List.take_append_of_le_length most, decide_false]

theorem write_of_refused {portion : Sink → Bytes → Nat} {bytes : Bytes} (some : bytes ≠ [])
    (refused : sink.offer portion bytes = none) : sink.write bytes = (sink, false) := by
  have full : sink.room bytes.length = 0 := by
    unfold offer at refused
    split at refused
    · assumption
    · contradiction
  have long := List.length_pos_iff.2 some
  rw [write_of_cut (by omega), full, List.take_zero, List.append_nil]

theorem write_of_offered {portion : Sink → Bytes → Nat} {next : Sink} {bytes left : Bytes}
    (offered : sink.offer portion bytes = some (next, left)) :
    sink.write bytes = next.write left := by
  by_cases full : sink.room bytes.length = 0
  · simp [offer, full] at offered
  · have most : sink.taken portion bytes ≤ sink.room bytes.length := taken_le full
    simp only [offer, full, if_false, Option.some.injEq, Prod.mk.injEq] at offered
    obtain ⟨rfl, rfl⟩ := offered
    generalize sink.taken portion bytes = count at most ⊢
    have whole := sink.room_le bytes.length
    have size : (bytes.take count).length = count := by
      rw [List.length_take]
      omega
    have fits : sink.room (bytes.take count).length = (bytes.take count).length := by
      rw [size]
      exact room_of_le most
    have parts := sink.write_append (bytes.take count) (bytes.drop count)
    rw [List.take_append_drop, write_of_fits fits] at parts
    exact parts

theorem writeAll_eq (portion : Sink → Bytes → Nat) (sink : Sink) (bytes : Bytes) :
    sink.writeAll portion bytes = sink.write bytes := by
  induction sink, bytes using writeAll.induct portion with
  | case1 sink => simp [writeAll]
  | case2 sink bytes some refused =>
    rw [writeAll, if_neg some, write_of_refused some refused]
    split <;> simp_all
  | case3 sink bytes some next left offered ih =>
    rw [writeAll, if_neg some, write_of_offered offered, ← ih]
    split <;> simp_all

theorem writePieces_eq (portion : Sink → Bytes → Nat) (sink : Sink) (pieces : List Bytes) :
    sink.writePieces portion pieces = sink.write pieces.flatten := by
  induction pieces generalizing sink with
  | nil => simp [writePieces]
  | cons piece rest ih =>
    rw [List.flatten_cons, write_append, writePieces, writeAll_eq]
    split <;> simp_all

end Sink

theorem Manner.write_eq (manner : Manner) : manner.write = Sink.write := by
  funext sink bytes
  rw [write, Sink.writePieces_eq, manner.flatten_pieces]

/-- However lines get to the streams, a notice does the same to the console and to the log. -/
theorem Console.receiveIn_eq (manner : Manner) : receiveIn manner = receive := by
  funext console notice
  simp only [receiveIn, receive, display, manner.write_eq]
  cases notice with
  | started | finished => split <;> rfl
  | suiteFinished => cases console.flushed <;> split <;> rfl

end CopyUp
