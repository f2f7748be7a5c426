import CopyUp.Directory.Cursor
import CopyUp.Proofs.Records

/-!
# Where reading stops

A buffer is read record by record up to its end or to the first bytes that are no record. What is
wrong with them is told by the first of five demands that they do not meet, and where they are by
the lengths of the records before them. No look at the buffer goes beyond it, and nothing is handed
out after the end or after the error.
-/

namespace CopyUp

theorem Bytes.slice?_of_le {bytes : Bytes} {start finish : Nat} (ordered : start ≤ finish)
    (within : finish ≤ bytes.length) :
    bytes.slice? start finish = some (bytes.slice start finish) :=
  if_pos ⟨ordered, within⟩

namespace Directory

/-! ## What is wrong with bytes that are no record -/

/-- What is still handed out behind the last record: nothing at the end of the buffer, and else the
error of the first demand that is not met. -/
inductive Stops (offset : Nat) : Bytes → List (Except RecordError Entry) → Prop
  | ends : Stops offset [] []
  | shortHeader {rest : Bytes} (more : rest ≠ []) (short : rest.length < 19) :
      Stops offset rest [.error (.shortHeader offset rest.length)]
  | zeroLength {rest : Bytes} (header : 19 ≤ rest.length) (zero : claimedLength rest = 0) :
      Stops offset rest [.error (.zeroLength offset)]
  | undersized {rest : Bytes} (header : 19 ≤ rest.length) (positive : claimedLength rest ≠ 0)
      (small : claimedLength rest < 19) :
      Stops offset rest [.error (.undersized offset (claimedLength rest))]
  | overrun {rest : Bytes} (header : 19 ≤ rest.length) (covers : 19 ≤ claimedLength rest)
      (beyond : rest.length < claimedLength rest) :
      Stops offset rest [.error (.overrun offset (claimedLength rest) rest.length)]
  | unterminatedName {rest : Bytes} (header : 19 ≤ rest.length) (covers : 19 ≤ claimedLength rest)
      (complete : claimedLength rest ≤ rest.length)
      (endless : 0 ∉ rest.slice 19 (claimedLength rest)) :
      Stops offset rest [.error (.unterminatedName offset)]

theorem Stops.of_readRecord {offset : Nat} {rest : Bytes} {error : RecordError}
    (more : rest ≠ []) (failed : readRecord offset rest = .error error) :
    Stops offset rest [.error error] := by
  unfold readRecord at failed
  simp only at failed
  by_cases short : rest.length < headerLength
  · rw [if_pos short] at failed
    cases failed
    exact .shortHeader more short
  rw [if_neg short] at failed
  have header := Nat.le_of_not_lt short
  by_cases zero : claimedLength rest = 0
  · rw [if_pos zero] at failed
    cases failed
    exact .zeroLength header zero
  rw [if_neg zero] at failed
  by_cases small : claimedLength rest < headerLength
  · rw [if_pos small] at failed
    cases failed
    exact .undersized header zero small
  rw [if_neg small] at failed
  have covers := Nat.le_of_not_lt small
  by_cases beyond : rest.length < claimedLength rest
  · rw [if_pos beyond] at failed
    cases failed
    exact .overrun header covers beyond
  rw [if_neg beyond] at failed
  have complete := Nat.le_of_not_lt beyond
  by_cases endless : 0 ∉ rest.slice headerLength (claimedLength rest)
  · rw [if_pos endless] at failed
    cases failed
    exact .unterminatedName header covers complete endless
  · rw [if_neg endless] at failed
    contradiction

theorem Stops.nil_iff {offset : Nat} {rest : Bytes} {stop : List (Except RecordError Entry)}
    (stops : Stops offset rest stop) : (∃ error, .error error ∈ stop) ↔ rest ≠ [] := by
  cases stops with
  | ends => simp
  | shortHeader more => simpa using more
  | zeroLength header | undersized header | overrun header | unterminatedName header =>
      have more : rest ≠ [] := by
        rintro rfl
        contradiction
      simpa using more

theorem exists_stop (buffer : Bytes) : ∃ records rest stop, buffer = row records ++ rest ∧
    Stops (row records).length rest stop ∧ items buffer = records.map (.ok ·.entry) ++ stop := by
  obtain ⟨records, rest, same, stops⟩ := exists_row_append 0 buffer
  have read := itemsFrom_row_append records 0 rest
  rw [← same, Nat.zero_add] at read
  by_cases empty : rest = []
  · rw [empty] at same read
    exact ⟨records, [], [], same, .ends, read⟩
  · obtain ⟨error, failed⟩ := stops empty
    rw [Nat.zero_add] at failed
    rw [itemsFrom_of_ne_nil _ empty, failed] at read
    exact ⟨records, rest, _, same, .of_readRecord empty failed, read⟩

theorem length_row_le (records : List Record) : records.length * 20 ≤ (row records).length := by
  induction records with
  | nil => exact Nat.le_refl _
  | cons record records ih =>
      have atLeast := record.isRecord.atLeast
      rw [row_cons, List.length_append, List.length_cons]
      omega

/-! ## Offsets -/

def RecordError.shift (count : Nat) : RecordError → RecordError
  | shortHeader offset left => shortHeader (count + offset) left
  | zeroLength offset => zeroLength (count + offset)
  | undersized offset claimed => undersized (count + offset) claimed
  | overrun offset claimed left => overrun (count + offset) claimed left
  | unterminatedName offset => unterminatedName (count + offset)

theorem readRecord_shift (count offset : Nat) (rest : Bytes) :
    readRecord (count + offset) rest = (readRecord offset rest).mapError (.shift count) := by
  unfold readRecord
  simp only
  split
  · rfl
  split
  · rfl
  split
  · rfl
  split
  · rfl
  split <;> rfl

theorem itemsFrom_shift (count offset : Nat) (rest : Bytes) :
    itemsFrom (count + offset) rest =
      (itemsFrom offset rest).map (·.mapError (.shift count)) := by
  induction left : rest.length using Nat.strongRecOn generalizing offset rest with
  | ind size ih =>
      by_cases empty : rest = []
      · rw [empty, itemsFrom_nil, itemsFrom_nil, List.map_nil]
      rw [itemsFrom_of_ne_nil _ empty, itemsFrom_of_ne_nil _ empty, readRecord_shift]
      cases read : readRecord offset rest with
      | error error => rfl
      | ok found =>
          have header := (length_of_readRecord read).1
          have some := List.length_pos_iff.2 empty
          simp only [headerLength] at header
          have shorter : (rest.drop found.2).length < size := by
            rw [List.length_drop]
            omega
          have later := ih _ shorter (offset + found.2) _ rfl
          rw [List.map_cons, ← later, ← Nat.add_assoc]
          rfl

/-- What follows a row of records is read as if it stood alone. -/
theorem items_append_of_isOk {buffer : Bytes} (fine : ∀ item ∈ items buffer, item.isOk)
    (rest : Bytes) :
    items (buffer ++ rest) =
      items buffer ++ (items rest).map (·.mapError (.shift buffer.length)) := by
  obtain ⟨records, rfl⟩ := exists_row_of_isOk fine
  have shifted := itemsFrom_shift (row records).length 0 rest
  have read := itemsFrom_row_append records 0 rest
  rw [Nat.zero_add, ← Nat.add_zero (row records).length, shifted] at read
  rw [items_row]
  exact read

/-! ## Looks at the buffer -/

namespace Cursor

theorem claimedLength_eq {rest : Bytes} (header : 19 ≤ rest.length) :
    ∃ low high, rest[16]? = some low ∧ rest[17]? = some high ∧
      claimedLength rest = Bytes.ofLittleEndian [low, high] := by
  have first : 16 < rest.length := by omega
  have second : 17 < rest.length := by omega
  refine ⟨rest[16], rest[17], List.getElem?_eq_getElem first, List.getElem?_eq_getElem second, ?_⟩
  have both : rest.slice 16 18 = [rest[16], rest[17]] := by
    unfold Bytes.slice
    rw [List.drop_take, List.drop_eq_getElem_cons first, List.drop_eq_getElem_cons second]
    rfl
  rw [claimedLength, both]

theorem slice_findIdx (name : Bytes) :
    name.slice 0 (name.findIdx (· = 0)) = name.takeWhile (· ≠ 0) := by
  rw [List.takeWhile_eq_take_findIdx_not]
  simp [Bytes.slice]

/-- A complete record is decoded without a look beyond it. -/
theorem decode?_eq {offset : Nat} {rest : Bytes} (covers : 19 ≤ claimedLength rest)
    (complete : claimedLength rest ≤ rest.length) :
    decode? offset rest (claimedLength rest) = some (readRecord offset rest) := by
  have kind : 18 < rest.length := by omega
  have header : ¬ rest.length < 19 := by omega
  have positive : claimedLength rest ≠ 0 := by omega
  have inode := Bytes.slice?_of_le (Nat.zero_le 8) (show 8 ≤ rest.length by omega)
  have cookie := Bytes.slice?_of_le (show 8 ≤ 16 by decide) (show 16 ≤ rest.length by omega)
  have padded := Bytes.slice?_of_le covers complete
  unfold decode? readRecord
  simp only [inode, cookie, padded, List.getElem?_eq_getElem kind, headerLength,
    Option.bind_eq_bind, Option.bind_some, header, positive, Nat.not_lt.2 covers,
    Nat.not_lt.2 complete, if_false]
  by_cases terminated : 0 ∈ rest.slice 19 (claimedLength rest)
  · have found : ∃ byte ∈ rest.slice 19 (claimedLength rest), decide (byte = 0) = true :=
      ⟨0, terminated, rfl⟩
    have within := List.findIdx_lt_length_of_exists found
    have name := Bytes.slice?_of_le (Nat.zero_le _) (Nat.le_of_lt within)
    rw [List.findIdx?_eq_some_of_exists found]
    simp only [name, Option.bind_some, slice_findIdx, terminated, not_true_eq_false, if_false,
      Option.getD_some]
  · have endless : (rest.slice 19 (claimedLength rest)).findIdx? (· = 0) = none := by
      rw [List.findIdx?_eq_none_iff]
      intro byte member
      have other : byte ≠ 0 := fun same => terminated (same ▸ member)
      simpa using other
    rw [endless]
    simp only [terminated, not_false_eq_true, if_true]

/-- A record is read without a look beyond the buffer. -/
theorem read?_eq {cursor : Cursor} (within : cursor.position ≤ cursor.buffer.length) :
    cursor.read? = some (readRecord cursor.position (cursor.buffer.drop cursor.position)) := by
  unfold read?
  simp only [Bytes.slice?_of_le within (Nat.le_refl _), Bytes.slice_length, Option.bind_eq_bind,
    Option.bind_some]
  generalize cursor.buffer.drop cursor.position = rest
  by_cases short : rest.length < headerLength
  · rw [if_pos short]
    unfold readRecord
    simp only [short, if_true]
  rw [if_neg short]
  obtain ⟨low, high, first, second, same⟩ := claimedLength_eq (Nat.le_of_not_lt short)
  simp only [first, second, Option.bind_some, ← same]
  by_cases whole : headerLength ≤ claimedLength rest ∧ claimedLength rest ≤ rest.length
  · have positive : claimedLength rest ≠ 0 := Nat.ne_of_gt (Nat.lt_of_lt_of_le (by decide) whole.1)
    rw [if_neg positive, if_neg (Nat.not_lt.2 whole.1), if_neg (Nat.not_lt.2 whole.2)]
    exact decode?_eq whole.1 whole.2
  · unfold readRecord
    simp only [short, if_false]
    split
    · rfl
    split
    · rfl
    split
    · rfl
    omega

/-! ## Turns of a cursor -/

/-- What a cursor has not handed out yet. -/
def remaining (cursor : Cursor) : List (Except RecordError Entry) :=
  if cursor.failed then [] else itemsFrom cursor.position (cursor.buffer.drop cursor.position)

theorem next?_eq {cursor : Cursor} (within : cursor.position ≤ cursor.buffer.length) :
    ∃ later, cursor.next? = some (cursor.remaining.head?, later) ∧
      later.position ≤ later.buffer.length ∧ later.remaining = cursor.remaining.tail := by
  unfold next?
  by_cases failed : cursor.failed
  · have done : cursor.remaining = [] := if_pos failed
    rw [if_pos (.inl failed), done]
    exact ⟨cursor, rfl, within, done⟩
  have left : cursor.remaining = itemsFrom cursor.position (cursor.buffer.drop cursor.position) :=
    if_neg failed
  by_cases ended : cursor.buffer.length ≤ cursor.position
  · have done : cursor.remaining = [] := by
      rw [left, List.drop_of_length_le ended, itemsFrom_nil]
    rw [if_pos (.inr ended), done]
    exact ⟨cursor, rfl, within, done⟩
  have more : cursor.buffer.drop cursor.position ≠ [] := by
    simpa using ended
  have goesOn : ¬ (cursor.failed ∨ cursor.buffer.length ≤ cursor.position) := fun stopped =>
    stopped.elim failed ended
  rw [if_neg goesOn, read?_eq within, left, itemsFrom_of_ne_nil _ more]
  cases read : readRecord cursor.position (cursor.buffer.drop cursor.position) with
  | error error => exact ⟨_, rfl, within, rfl⟩
  | ok found =>
      have ends := (length_of_readRecord read).2
      rw [List.length_drop] at ends
      refine ⟨_, rfl, ?_, ?_⟩
      · show cursor.position + found.2 ≤ cursor.buffer.length
        omega
      · show remaining { cursor with position := cursor.position + found.2 } =
          itemsFrom (cursor.position + found.2)
            ((cursor.buffer.drop cursor.position).drop found.2)
        unfold remaining
        rw [if_neg failed, List.drop_drop]

/-- Turn by turn what remains is handed out, and then nothing ever again. -/
theorem nth?_eq (turns : Nat) {cursor : Cursor}
    (within : cursor.position ≤ cursor.buffer.length) :
    nth? turns cursor = some cursor.remaining[turns]? := by
  induction turns generalizing cursor with
  | zero =>
      obtain ⟨later, next, _⟩ := next?_eq within
      unfold nth?
      rw [next, Option.map_some, List.head?_eq_getElem?]
  | succ turns ih =>
      obtain ⟨later, next, within, rest⟩ := next?_eq within
      unfold nth?
      simp only [next, Option.bind_eq_bind, Option.bind_some, ih within, rest, List.getElem?_tail]

theorem nth?_start (turns : Nat) (buffer : Bytes) :
    nth? turns { buffer } = some (items buffer)[turns]? :=
  nth?_eq turns (Nat.zero_le _)

end Cursor

/-! ## Exact stops -/

/-- What a buffer hands out: the entries of the records in front, and behind them nothing or the one
error that tells why and where the rest is no record. -/
structure StopsExactly (buffer : Bytes) (records : List Record) (rest : Bytes)
    (stop : List (Except RecordError Entry)) : Prop where
  split : buffer = row records ++ rest
  handed : items buffer = records.map (.ok ·.entry) ++ stop
  stops : Stops (row records).length rest stop
  within : (row records).length ≤ buffer.length
  few : records.length ≤ buffer.length / 20
  clean : (∃ error, .error error ∈ items buffer) ↔ (row records).length ≠ buffer.length

theorem exists_stopsExactly (buffer : Bytes) :
    ∃ records rest stop, StopsExactly buffer records rest stop := by
  obtain ⟨records, rest, stop, split, stops, handed⟩ := exists_stop buffer
  have lengths : buffer.length = (row records).length + rest.length := by
    rw [split, List.length_append]
  have few := length_row_le records
  have clean : (∃ error, .error error ∈ items buffer) ↔ (row records).length ≠ buffer.length := by
    rw [handed]
    calc (∃ error, .error error ∈ records.map (.ok ·.entry) ++ stop)
        ↔ ∃ error, .error error ∈ stop := by simp
      _ ↔ rest ≠ [] := stops.nil_iff
      _ ↔ (row records).length ≠ buffer.length := by
          rw [lengths, ← List.length_pos_iff]
          omega
  exact ⟨records, rest, stop, split, handed, stops, by omega, by omega, clean⟩

/-- Reading any buffer stops at its end or at the first bytes that are no record, a cursor never
looks beyond the buffer and hands out nothing after the stop, and what is put behind a clean buffer
is read as if it stood alone. -/
theorem items_stop_exactly (buffer : Bytes) :
    (∃ records rest stop, StopsExactly buffer records rest stop) ∧
      (∀ turns, Cursor.nth? turns { buffer } = some (items buffer)[turns]?) ∧
      ((∀ item ∈ items buffer, item.isOk) → ∀ rest, items (buffer ++ rest) =
        items buffer ++ (items rest).map (·.mapError (.shift buffer.length))) :=
  ⟨exists_stopsExactly buffer, fun turns => Cursor.nth?_start turns buffer, items_append_of_isOk⟩

/-- Three bytes behind a record with an empty name are reported at the offset behind it. -/
theorem truncated_after_record :
    (∀ item ∈ items (List.replicate 16 0 ++ [20, 0, 8, 0]), item.isOk) ∧
      items (List.replicate 16 0 ++ [20, 0, 8, 0] ++ [7, 7, 7]) =
        [.ok { inode := 0, cookie := 0, kind := .regular, name := [] },
          .error (.shortHeader 20 3)] := by
  have clean : ∀ item ∈ items (List.replicate 16 0 ++ [20, 0, 8, 0]), item.isOk := by decide
  have read := (items_stop_exactly (List.replicate 16 0 ++ [20, 0, 8, 0])).2.2 clean [7, 7, 7]
  exact ⟨clean, read.trans rfl⟩

end Directory

end CopyUp
