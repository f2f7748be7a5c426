import CopyUp.Proofs.Holdings
import CopyUp.Proofs.Stopping

/-!
# Drains of directories

An open directory is drained buffer by buffer, up to an empty one, one that is refused or one with
a malformed record. The calls alone tell what a drain came to and where it ends, so a record that
starts with a drain starts with one drain only.
-/

namespace CopyUp

/-- Whatever follows the asked calls, they tell the result, and they tell where they end. -/
def SelfDelimiting {ρ : Type} (comes : ρ → List Asked → Prop) : Prop :=
  ∀ ⦃first second asked others more rest⦄, comes first asked → comes second others →
    asked ++ more = others ++ rest → first = second ∧ asked = others

/-- An answer ends at the first attempt that was not interrupted. -/
theorem Answered.selfDelimiting (purpose : Purpose) (call : Call) :
    SelfDelimiting (Answered purpose call) := by
  intro first second asked others more rest one other same
  induction one generalizing others with
  | once settled =>
      cases other with
      | once =>
          cases (List.cons.inj same).1
          exact ⟨rfl, rfl⟩
      | again restarts =>
          cases (List.cons.inj same).1
          exact absurd rfl (settled restarts)
  | again restarts _ ih =>
      cases other with
      | once settled =>
          cases (List.cons.inj same).1
          exact absurd rfl (settled restarts)
      | again _ later =>
          have ⟨alike, tails⟩ := ih later (List.cons.inj same).2
          exact ⟨alike, congrArg _ tails⟩

namespace Directory

/-! ## Entries of a buffer -/

theorem entries_row (records : List Record) :
    entries (row records) = .ok (records.map Record.entry) := by
  unfold entries
  rw [items_row]
  induction records with
  | nil => rfl
  | cons record records ih =>
      rw [List.map_cons, List.mapM_cons, ih]
      rfl

/-- The error of a malformed record is the only one, and the last item. -/
theorem entries_of_error {buffer : Bytes} {error : RecordError}
    (member : .error error ∈ items buffer) : entries buffer = .error error := by
  have ⟨records, rest, stop, split, stops, handed⟩ := exists_stop buffer
  have last : stop = [.error error] := by
    have among : .error error ∈ stop := by simpa [handed] using member
    cases stops with
    | ends => contradiction
    | shortHeader | zeroLength | undersized | overrun | unterminatedName =>
        rw [List.mem_singleton.1 among]
  unfold entries
  rw [handed, last]
  clear handed split stops
  induction records with
  | nil => rfl
  | cons record records ih =>
      rw [List.map_cons, List.cons_append, List.mapM_cons, ih]
      rfl

theorem row_ne_nil {records : List Record} (more : records ≠ []) : row records ≠ [] :=
  fun empty => more (row_injective (empty.trans row_nil.symm))

/-! ## Buffers -/

/-- What the next buffer comes to. -/
inductive Buffered (fd : Descriptor) :
    Except ListingError (Option (List Entry)) → List Asked → Prop
  | ended : Buffered fd (.ok none) [⟨.listing, ⟨.getdents64 fd bufferLength, .ok []⟩⟩]
  | refused {errno : Errno} :
      Buffered fd (.error (.call (.os errno)))
        [⟨.listing, ⟨.getdents64 fd bufferLength, .error errno⟩⟩]
  | malformed {bytes : Bytes} {error : RecordError} (member : .error error ∈ items bytes) :
      Buffered fd (.error (.malformed error))
        [⟨.listing, ⟨.getdents64 fd bufferLength, .ok bytes⟩⟩]
  | filled {records : List Record} (more : records ≠ []) :
      Buffered fd (.ok (some (records.map Record.entry)))
        [⟨.listing, ⟨.getdents64 fd bufferLength, .ok (row records)⟩⟩]

def buffered : Except Errno Bytes → Except ListingError (Option (List Entry))
  | .error errno => .error (.call (.os errno))
  | .ok bytes =>
    if bytes = [] then .ok none else ((entries bytes).mapError .malformed).map some

theorem buffered_row {records : List Record} (more : records ≠ []) :
    buffered (.ok (row records)) = .ok (some (records.map Record.entry)) := by
  simp only [buffered, if_neg (row_ne_nil more), entries_row]
  rfl

theorem buffered_of_error {bytes : Bytes} {error : RecordError}
    (member : .error error ∈ items bytes) :
    buffered (.ok bytes) = .error (.malformed error) := by
  have more : bytes ≠ [] := by
    intro empty
    rw [empty] at member
    contradiction
  simp only [buffered, if_neg more, entries_of_error member]
  rfl

theorem Buffered.exists_reply {fd : Descriptor}
    {result : Except ListingError (Option (List Entry))} {asked : List Asked}
    (read : Buffered fd result asked) : ∃ reply,
      asked = [⟨.listing, ⟨.getdents64 fd bufferLength, reply⟩⟩] ∧ result = buffered reply := by
  cases read with
  | ended | refused => exact ⟨_, rfl, rfl⟩
  | malformed member => exact ⟨_, rfl, (buffered_of_error member).symm⟩
  | filled more => exact ⟨_, rfl, (buffered_row more).symm⟩

theorem buffered_of_reply (fd : Descriptor) (reply : Except Errno Bytes) :
    Buffered fd (buffered reply) [⟨.listing, ⟨.getdents64 fd bufferLength, reply⟩⟩] := by
  cases reply with
  | error errno => exact .refused
  | ok bytes =>
      by_cases failed : ∃ error, .error error ∈ items bytes
      · have ⟨error, member⟩ := failed
        rw [buffered_of_error member]
        exact .malformed member
      have fine : ∀ item ∈ items bytes, item.isOk := by
        intro item member
        cases item with
        | ok => rfl
        | error error => exact absurd ⟨error, member⟩ failed
      have ⟨records, same⟩ := exists_row_of_isOk fine
      rw [same]
      by_cases none : records = []
      · rw [none]
        exact .ended
      · rw [buffered_row none]
        exact .filled none

theorem Buffered.selfDelimiting (fd : Descriptor) : SelfDelimiting (Buffered fd) := by
  intro first second asked others more rest one other same
  have ⟨reply, asks, found⟩ := one.exists_reply
  have ⟨answer, calls, result⟩ := other.exists_reply
  rw [asks, calls] at same
  cases (List.cons.inj same).1
  exact ⟨found.trans result.symm, asks.trans calls.symm⟩

/-! ## Drains -/

/-- What a drain comes to: the entries of all buffers up to the empty one, or the first error. -/
inductive Drained (fd : Descriptor) : Except ListingError (List Entry) → List Asked → Prop
  | ended {asked : List Asked} (read : Buffered fd (.ok none) asked) : Drained fd (.ok []) asked
  | stopped {error : ListingError} {asked : List Asked}
      (read : Buffered fd (.error error) asked) : Drained fd (.error error) asked
  | filled {entries : List Entry} {result : Except ListingError (List Entry)}
      {first rest : List Asked} (read : Buffered fd (.ok (some entries)) first)
      (later : Drained fd result rest) :
      Drained fd ((entries ++ ·) <$> result) (first ++ rest)

theorem Drained.selfDelimiting (fd : Descriptor) : SelfDelimiting (Drained fd) := by
  intro first second asked others more rest one other same
  have reads := Buffered.selfDelimiting fd
  induction one generalizing second others with
  | ended read =>
      cases other with
      | ended another => exact ⟨rfl, (reads read another same).2⟩
      | stopped another => cases (reads read another same).1
      | filled another => cases (reads read another (same.trans (List.append_assoc ..))).1
  | stopped read =>
      cases other with
      | ended another => cases (reads read another same).1
      | stopped another =>
          cases (reads read another same).1
          exact ⟨rfl, (reads read another same).2⟩
      | filled another => cases (reads read another (same.trans (List.append_assoc ..))).1
  | filled read _ ih =>
      rw [List.append_assoc] at same
      cases other with
      | ended another | stopped another => cases (reads read another same).1
      | filled another later =>
          rw [List.append_assoc] at same
          have ⟨found, calls⟩ := reads read another same
          cases found
          cases calls
          have ⟨results, others⟩ := ih later (List.append_cancel_left same)
          exact ⟨by rw [results], by rw [others]⟩

variable {σ : Type} [Kernel σ]

theorem asksOnce_fill (purpose : Purpose) (fd : Descriptor) :
    (fill (σ := σ) purpose fd).AsksOnce purpose (.getdents64 fd bufferLength)
      fun reply => reply.mapError .os :=
  FileSystem.asksOnce_issue purpose (by simp [Call.paths]) (by simp [Call.restarts])

theorem asksOnce_nextEntries (fd : Descriptor) :
    (nextEntries (σ := σ) fd).AsksOnce .listing (.getdents64 fd bufferLength) buffered := by
  have fills := (asksOnce_fill (σ := σ) .listing fd).explain ListingError.call
  refine (fills.bind (fun bytes => buffered (.ok bytes)) fun bytes => ?_).congr fun reply => ?_
  · by_cases empty : bytes = []
    · rw [if_pos empty, empty]
      exact .pure none
    · have judged : buffered (.ok bytes) =
          ((entries bytes).mapError ListingError.malformed).map some := if_neg empty
      rw [if_neg empty, judged]
      intro kernel
      simp only [Attempt.exec_bind, Attempt.exec_log, Attempt.exec_map, Attempt.exec_explain,
        Attempt.exec_conclude]
      exact ⟨rfl, trivial, rfl⟩
  · cases reply <;> rfl

theorem drained_list (fd : Descriptor) (kernel : σ) :
    Drained fd ((list fd).exec kernel).value (Trace.asked ((list fd).exec kernel).record) := by
  induction size : Kernel.patience kernel using Nat.strongRecOn generalizing kernel with
  | ind size ih =>
      have read := ((asksOnce_nextEntries fd).ensures_each (buffered_of_reply fd)).post kernel
      have less := @patience_lt_of_nextEntries σ _ fd kernel
      rw [exec_list, Attempt.exec_bind]
      cases ran : (nextEntries fd).exec kernel with
      | mk value after trace =>
          rw [ran] at read less
          cases value with
          | error error => exact .stopped read
          | ok found =>
              cases found with
              | none => simpa [follow] using Drained.ended read
              | some entries =>
                  have later := ih _ (size ▸ less rfl) after rfl
                  simpa [follow] using Drained.filled read later

/-- Over every kernel a directory is drained. -/
theorem ensures_list_drained (fd : Descriptor) : (list (σ := σ) fd).Ensures (Drained fd) := by
  refine ⟨drained_list fd, ?_⟩
  have keeps : (list (σ := σ) fd).Keeps false [fd] := keeps_list (List.mem_singleton_self fd)
  exact (keeps { held := [fd] } fun _ member => member).served

end Directory

end CopyUp
