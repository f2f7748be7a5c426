import CopyUp.Directory.Buffer
import CopyUp.Kernel.Script
import CopyUp.Proofs.Drains

/-!
# Cuts of a directory

A directory comes in chunks of whole records. To drain it loses, doubles and reorders nothing,
wherever the kernel cuts: the entries are those of all chunks read as one, up to the first reply
that is no chunk, and this reply alone tells how the drain ends.
-/

namespace CopyUp

namespace Script

def Entry.filled : Entry → Except Errno Bytes
  | .refuse errno => .error errno
  | .grant values => .ok (values.data.take Directory.bufferLength)

/-- The replies to one reading after the other, up to the end that comes behind all entries. -/
def fills (script : Script) : List (Except Errno Bytes) :=
  script.entries.map Entry.filled ++ [.ok []]

end Script

namespace Directory

/-! ## Chunks -/

/-- Bytes to go on from: records only, as many as fit into the buffer. -/
structure Chunk (bytes : Bytes) (found : List Entry) : Prop where
  filled : bytes ≠ []
  fits : bytes.length ≤ bufferLength
  read : entries bytes = .ok found

/-- What the first reply that is no chunk makes of the entries found before it. -/
inductive Closes (found : List Entry) :
    Except Errno Bytes → Except ListingError (List Entry) → Prop
  | ended : Closes found (.ok []) (.ok found)
  | refused {errno : Errno} : Closes found (.error errno) (.error (.call (.os errno)))
  | malformed {bytes : Bytes} {error : RecordError} (fits : bytes.length ≤ bufferLength)
      (stops : entries bytes = .error error) :
      Closes found (.ok bytes) (.error (.malformed error))

/-- The replies hand out these records, cut anywhere between two of them, and then end. -/
inductive Cuts : List Record → List (Except Errno Bytes) → Prop
  | ended {rest : List (Except Errno Bytes)} : Cuts [] (.ok [] :: rest)
  | chunk {part records : List Record} {rest : List (Except Errno Bytes)} (some : part ≠ [])
      (later : Cuts records rest) : Cuts (part ++ records) (.ok (row part) :: rest)

theorem exists_row_of_entries {bytes : Bytes} {found : List Entry}
    (read : entries bytes = .ok found) :
    ∃ records, bytes = row records ∧ found = records.map Record.entry := by
  have fine : ∀ item ∈ items bytes, item.isOk := by
    intro item member
    cases item with
    | ok => rfl
    | error error =>
        rw [entries_of_error member] at read
        contradiction
  have ⟨records, same⟩ := exists_row_of_isOk fine
  rw [same, entries_row] at read
  cases read
  exact ⟨records, same, rfl⟩

theorem row_append (first second : List Record) : row (first ++ second) = row first ++ row second :=
  List.flatMap_append

/-- Chunks that are read one by one are read as one. -/
theorem entries_flatten {chunks : List Bytes} {found : List (List Entry)}
    (each : List.Forall₂ Chunk chunks found) : entries chunks.flatten = .ok found.flatten := by
  have rows : ∃ records, chunks.flatten = row records ∧
      found.flatten = records.map Record.entry := by
    induction each with
    | nil => exact ⟨[], rfl, rfl⟩
    | cons chunk _ ih =>
        have ⟨records, bytes, own⟩ := exists_row_of_entries chunk.read
        have ⟨others, rest, theirs⟩ := ih
        refine ⟨records ++ others, ?_, ?_⟩
        · rw [List.flatten_cons, bytes, rest, row_append]
        · rw [List.flatten_cons, own, theirs, List.map_append]
  have ⟨records, bytes, same⟩ := rows
  rw [bytes, same]
  exact entries_row records

/-! ## Replies -/

/-- What is found in front comes in front, and changes no error. -/
theorem Closes.prepend {found : List Entry} {last : Except Errno Bytes}
    {result : Except ListingError (List Entry)} (closes : Closes found last result)
    (front : List Entry) : Closes (front ++ found) last ((front ++ ·) <$> result) := by
  cases closes with
  | ended => exact .ended
  | refused => exact .refused
  | malformed fits stops => exact .malformed fits stops

/-- Bytes that close a drain are none, or they are not read to their end. -/
theorem Closes.not_read {before found : List Entry} {bytes : Bytes}
    {result : Except ListingError (List Entry)} (closes : Closes before (.ok bytes) result)
    (filled : bytes ≠ []) : entries bytes ≠ .ok found := by
  cases closes with
  | ended => exact absurd rfl filled
  | malformed _ stops =>
      rw [stops]
      exact nofun

def reading (fd : Descriptor) (reply : Except Errno Bytes) : Asked :=
  ⟨.listing, ⟨.getdents64 fd bufferLength, reply⟩⟩

section

variable {fd : Descriptor} {reply : Except Errno Bytes}

theorem Buffered.closes {error : ListingError}
    (read : Buffered fd (.error error) [reading fd reply])
    (fits : ∀ bytes, reply = .ok bytes → bytes.length ≤ bufferLength) :
    Closes [] reply (.error error) := by
  cases read with
  | refused => exact .refused
  | malformed member => exact .malformed (fits _ rfl) (entries_of_error member)

theorem Buffered.ended_closes (read : Buffered fd (.ok none) [reading fd reply]) :
    Closes [] reply (.ok []) := by
  cases read with
  | ended => exact .ended

theorem Buffered.chunk {found : List Entry}
    (read : Buffered fd (.ok (some found)) [reading fd reply])
    (fits : ∀ bytes, reply = .ok bytes → bytes.length ≤ bufferLength) :
    ∃ bytes, reply = .ok bytes ∧ Chunk bytes found := by
  cases read with
  | filled more => exact ⟨_, rfl, row_ne_nil more, fits _ rfl, entries_row _⟩

end

/-- What a drain comes to on some replies: it reads the chunks in front and the first reply that is
none. -/
def Reads (fd : Descriptor) (replies : List (Except Errno Bytes))
    (result : Except ListingError (List Entry)) (asked : List Asked) : Prop :=
  ∃ chunks found last rest, replies = chunks.map Except.ok ++ last :: rest ∧
    List.Forall₂ Chunk chunks found ∧ Closes found.flatten last result ∧
      asked = (chunks.map Except.ok ++ [last]).map (reading fd)

namespace Reads

variable {fd : Descriptor} {replies : List (Except Errno Bytes)}

theorem stop {last : Except Errno Bytes} {result : Except ListingError (List Entry)}
    (closes : Closes [] last result) (rest : List (Except Errno Bytes)) :
    Reads fd (last :: rest) result [reading fd last] :=
  ⟨[], [], last, rest, rfl, .nil, closes, rfl⟩

theorem more {bytes : Bytes} {entries : List Entry} (chunk : Chunk bytes entries)
    {result : Except ListingError (List Entry)} {asked : List Asked}
    (later : Reads fd replies result asked) :
    Reads fd (.ok bytes :: replies) ((entries ++ ·) <$> result)
      (reading fd (.ok bytes) :: asked) := by
  have ⟨chunks, found, last, rest, split, each, closes, reads⟩ := later
  exact ⟨bytes :: chunks, entries :: found, last, rest, congrArg _ split, .cons chunk each,
    closes.prepend entries, congrArg _ reads⟩

end Reads

/-- A script answers a reading with the first of its fills, and goes on with the others. -/
theorem fills_eq_cons (script : Script) (fd : Descriptor) :
    let answered := Kernel.answer (.getdents64 fd bufferLength) script
    ∃ rest, script.fills = answered.1 :: rest ∧
      (answered.1 ≠ .ok [] → rest = answered.2.fills) := by
  cases script with
  | mk entries next =>
      cases entries with
      | nil => exact ⟨[], rfl, fun more => absurd rfl more⟩
      | cons entry later => cases entry <;> exact ⟨_, rfl, fun _ => rfl⟩

theorem reads_list (fd : Descriptor) (script : Script) :
    Reads fd script.fills ((list fd).exec script).value
      (Trace.asked ((list fd).exec script).record) := by
  induction size : Kernel.patience script using Nat.strongRecOn generalizing script with
  | ind size ih =>
      have ⟨value, state, asks⟩ := asksOnce_nextEntries fd script
      have less := @patience_lt_of_nextEntries Script _ fd script
      have fits := @Kernel.filled_le Script _ fd bufferLength script
      have ⟨rest, fills, goesOn⟩ := fills_eq_cons script fd
      have read := buffered_of_reply fd (Kernel.answer (.getdents64 fd bufferLength) script).1
      rw [exec_list, Attempt.exec_bind, fills]
      cases ran : (nextEntries fd).exec script with
      | mk result after trace =>
          simp only [ran] at value state asks less
          rw [← value] at read
          cases result with
          | error error =>
              show Reads fd _ (.error error) (Trace.asked trace)
              rw [asks]
              exact .stop (read.closes fun _ => fits) rest
          | ok found =>
              cases found with
              | none =>
                  show Reads fd _ (.ok []) (Trace.asked (trace ++ []))
                  rw [List.append_nil, asks]
                  exact .stop read.ended_closes rest
              | some found =>
                  have ⟨bytes, answer, chunk⟩ := read.chunk fun _ => fits
                  have later := ih _ (size ▸ less rfl) after rfl
                  rw [state, ← goesOn (by simp [answer, chunk.filled])] at later
                  simp only [follow, Attempt.exec_map, Trace.asked_append, asks, answer, state]
                  exact later.more chunk

/-- A stream of records leaves nothing but its end to stop at. -/
theorem Cuts.eq_of_chunks {records : List Record} {replies : List (Except Errno Bytes)}
    (cuts : Cuts records replies) {chunks : List Bytes} {found : List (List Entry)}
    {last : Except Errno Bytes} {rest : List (Except Errno Bytes)}
    (split : replies = chunks.map Except.ok ++ last :: rest)
    (each : List.Forall₂ Chunk chunks found) {before : List Entry}
    {result : Except ListingError (List Entry)} (closes : Closes before last result) :
    last = .ok [] ∧ found.flatten = records.map Record.entry := by
  induction cuts generalizing chunks found with
  | ended =>
      cases each with
      | nil =>
          cases split
          exact ⟨rfl, rfl⟩
      | cons chunk =>
          cases split
          exact absurd rfl chunk.filled
  | chunk some _ ih =>
      cases each with
      | nil =>
          cases split
          exact absurd (entries_row _) (closes.not_read (row_ne_nil some))
      | cons chunk others =>
          cases split
          have ⟨last, tail⟩ := ih rfl others
          have read := chunk.read
          rw [entries_row] at read
          cases read
          exact ⟨last, by rw [List.flatten_cons, tail, List.map_append]⟩

theorem Reads.of_cuts {fd : Descriptor} {replies : List (Except Errno Bytes)}
    {result : Except ListingError (List Entry)} {asked : List Asked} {records : List Record}
    (reads : Reads fd replies result asked) (cuts : Cuts records replies) :
    result = .ok (records.map Record.entry) := by
  have ⟨chunks, found, last, rest, split, each, closes, _⟩ := reads
  have ⟨ended, whole⟩ := cuts.eq_of_chunks split each closes
  rw [ended, whole] at closes
  cases closes with
  | ended => rfl
  | malformed _ stops => cases stops

/-! ## The law -/

theorem Closes.isOk_iff {found : List Entry} {last : Except Errno Bytes}
    {result : Except ListingError (List Entry)} (closes : Closes found last result) :
    result.isOk ↔ last = .ok [] := by
  cases closes with
  | ended => exact iff_of_true rfl rfl
  | refused => exact iff_of_false nofun nofun
  | malformed _ stops =>
      apply iff_of_false nofun
      intro empty
      cases empty
      contradiction

/-- Of the replies that a script has left, a drain reads the chunks in front and the first that is
none, and asks for no more. It works exactly if that one is empty, and its entries are then those of
all chunks in order, read one by one or as one; else it tells the error of that one. So all scripts
that hand out the same records come to the same entries. What the buffer held before makes no
difference. -/
theorem drained_wherever_cut (fd : Descriptor) (script : Script) :
    let ran := (list fd).exec script
    let asked := Trace.asked ran.record
    (∃ chunks found last rest, script.fills = chunks.map Except.ok ++ last :: rest ∧
        List.Forall₂ Chunk chunks found ∧ entries chunks.flatten = .ok found.flatten ∧
        Closes found.flatten last ran.value ∧ (ran.value.isOk ↔ last = .ok []) ∧
        asked = (chunks.map Except.ok ++ [last]).map (reading fd)) ∧
      asked.length ≤ script.entries.length + 1 ∧
      (∀ records, Cuts records script.fills → ran.value = .ok (records.map Record.entry)) ∧
      ∀ buffer : Bytes, buffer.length = bufferLength →
        (listThrough fd buffer).exec script = ran := by
  intro ran asked
  have reads : Reads fd script.fills ran.value asked := reads_list fd script
  have ⟨chunks, found, last, rest, split, each, closes, same⟩ := reads
  refine ⟨⟨chunks, found, last, rest, split, each, entries_flatten each, closes, closes.isOk_iff,
    same⟩, ?_, fun _ => reads.of_cuts, fun _ whole => exec_listThrough fd whole script⟩
  have counts : script.fills.length = chunks.length + (rest.length + 1) := by
    rw [split, List.length_append, List.length_map, List.length_cons]
  have entries : script.fills.length = script.entries.length + 1 := by
    simp [Script.fills]
  have own : asked.length = chunks.length + 1 := by
    simp [same]
  omega

/-- A directory and a file in one chunk, and in a chunk each. -/
theorem cut_between_records :
    let directory : Layout := ⟨1, 1, 4, [46], [], by decide, by decide⟩
    let file : Layout := ⟨2, 2, 8, [102], [0, 0], by decide, by decide⟩
    let whole : Script := ⟨[.grant { data := directory.bytes ++ file.bytes }], 3⟩
    let split : Script := ⟨[.grant { data := directory.bytes }, .grant { data := file.bytes }], 3⟩
    let records := [directory.record, file.record]
    Cuts records whole.fills ∧ Cuts records split.fills ∧
      ((list 3).exec whole).value = ((list 3).exec split).value := by
  intro directory file whole split records
  have once : Cuts (records ++ []) (.ok (row records) :: [.ok []]) :=
    .chunk (by simp [records]) .ended
  have twice : Cuts ([directory.record] ++ ([file.record] ++ []))
      (.ok (row [directory.record]) :: .ok (row [file.record]) :: [.ok []]) :=
    .chunk (by simp) (.chunk (by simp) .ended)
  have same := (drained_wherever_cut 3 whole).2.2.1 records once
  have alike := (drained_wherever_cut 3 split).2.2.1 records twice
  exact ⟨once, twice, same.trans alike.symm⟩

end Directory

end CopyUp
