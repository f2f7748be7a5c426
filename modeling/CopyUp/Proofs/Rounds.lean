import Mathlib.Data.List.Infix
import Mathlib.Data.List.Induction
import CopyUp.Proofs.Drains
import CopyUp.Proofs.Efforts

/-!
# Rounds

Three loops go by the answers of the kernel: an interrupted call is made again, a write goes on
behind the bytes that were taken, and a directory is read until nothing more is filled. But for
their further rounds every program asks as many calls at most as its parts together, and a script
pays for each further round with an entry of its own.
-/

namespace CopyUp

namespace Asked

/-- The answer makes a loop ask again: the call was interrupted and is made again, some bytes were
taken and some left, or a directory buffer was filled. -/
def asksAgain (one : Asked) : Bool :=
  match one.exchange with
  | ⟨.write _ bytes, .ok count⟩ => 0 < count ∧ count < bytes.length
  | ⟨.pwrite _ bytes _, .ok count⟩ => 0 < count ∧ count < bytes.length
  | ⟨.getdents64 .., .ok bytes⟩ => bytes ≠ []
  | ⟨call, .error errno⟩ => call.restarts ∧ errno = .eintr
  | ⟨_, .ok _⟩ => false

/-- How many calls make no loop ask again. -/
def conclusions (asked : List Asked) : Nat := asked.countP fun one => !one.asksAgain

@[simp] theorem conclusions_nil : conclusions [] = 0 := rfl

theorem conclusions_append (first second : List Asked) :
    conclusions (first ++ second) = conclusions first + conclusions second :=
  List.countP_append

theorem conclusions_eq_zero {asked : List Asked} (again : ∀ one ∈ asked, one.asksAgain) :
    conclusions asked = 0 := by
  apply List.countP_eq_zero.2
  intro one member
  simp [again one member]

theorem conclusions_of_conclusive {asked : List Asked} (last : ∀ one ∈ asked, ¬ one.asksAgain) :
    conclusions asked = asked.length := by
  apply List.countP_eq_length.2
  intro one member
  simp [last one member]

theorem asksAgain_of_interrupted (purpose : Purpose) {call : Call} (restarts : call.restarts) :
    asksAgain ⟨purpose, ⟨call, .error .eintr⟩⟩ := by
  cases call <;> first | rfl | contradiction

theorem asksAgain_of_taken (purpose : Purpose) (fd : Descriptor) {bytes : Bytes} {count : Nat}
    (place : FileSystem.Placement) (some : 0 < count) (less : count < bytes.length) :
    (place.asked purpose fd bytes (.ok count)).asksAgain := by
  cases place <;> simp [FileSystem.Placement.asked, asksAgain, some, less]

/-- Every call but the last is the reason for one more. -/
def Rounds (asked : List Asked) : Prop := ∀ one ∈ asked.dropLast, one.asksAgain

namespace Rounds

variable {asked first second : List Asked}

theorem single (one : Asked) : Rounds [one] := fun _ member => absurd member List.not_mem_nil

theorem of_forall (again : ∀ one ∈ asked, one.asksAgain) : Rounds asked :=
  fun one member => again one (List.mem_of_mem_dropLast member)

theorem append (again : ∀ one ∈ first, one.asksAgain) (rounds : Rounds second) :
    Rounds (first ++ second) := by
  cases second with
  | nil =>
      rw [List.append_nil]
      exact of_forall again
  | cons one rest =>
      intro other member
      rw [List.dropLast_append_of_ne_nil (List.cons_ne_nil one rest)] at member
      cases List.mem_append.1 member with
      | inl earlier => exact again other earlier
      | inr later => exact rounds other later

theorem conclusions_le (rounds : Rounds asked) : conclusions asked ≤ 1 := by
  cases asked using List.reverseRecOn with
  | nil => exact Nat.zero_le 1
  | append_singleton rest last =>
      rw [Rounds, List.dropLast_concat] at rounds
      rw [conclusions_append, conclusions_eq_zero rounds, Nat.zero_add]
      exact List.countP_le_length

end Rounds

end Asked

open Asked (conclusions Rounds)

/-! ## The loops -/

namespace Answered

variable {purpose : Purpose} {call : Call} {reply : Except Errno call.Reply} {asked : List Asked}

theorem asksAgain_of_mem (answered : Answered purpose call reply asked)
    (last : Asked.asksAgain ⟨purpose, ⟨call, reply⟩⟩) : ∀ one ∈ asked, one.asksAgain := by
  induction answered with
  | once =>
      intro one only
      rwa [List.mem_singleton.1 only]
  | again restarts _ ih =>
      exact List.forall_mem_cons.2 ⟨Asked.asksAgain_of_interrupted purpose restarts, ih⟩

/-- A call is made again after an interruption only. -/
theorem rounds (answered : Answered purpose call reply asked) : Rounds asked := by
  induction answered with
  | once => exact .single _
  | again restarts _ ih =>
      exact .append (List.forall_mem_singleton.2 (Asked.asksAgain_of_interrupted purpose restarts))
        ih

end Answered

namespace FileSystem

variable {purpose : Purpose} {fd : Descriptor} {place : Placement} {bytes : Bytes}
  {asked : List Asked}

theorem Offered.asksAgain_of_mem {reply : Except Errno Nat}
    (offered : Offered purpose fd bytes place reply asked)
    (last : (place.asked purpose fd bytes reply).asksAgain) : ∀ one ∈ asked, one.asksAgain := by
  cases offered with
  | next answered | «at» answered => exact answered.asksAgain_of_mem last

theorem Offered.rounds {reply : Except Errno Nat}
    (offered : Offered purpose fd bytes place reply asked) : Rounds asked := by
  cases offered with
  | next answered | «at» answered => exact answered.rounds

/-- Bytes are offered again after an interruption, or after some were taken and some left. -/
theorem Written.rounds {result : Except IoError Unit}
    (written : Written purpose fd place bytes result asked) : Rounds asked := by
  induction written with
  | done => exact .of_forall (by simp)
  | refused _ offered | stuck _ offered => exact offered.rounds
  | @took place bytes count _ _ _ _ some offered later ih =>
      by_cases whole : count = bytes.length
      · rw [whole, List.drop_length] at later
        rw [later.of_nil.2, List.append_nil]
        exact offered.rounds
      · have less : count < bytes.length := Nat.lt_of_le_of_ne offered.le whole
        have goes := Asked.asksAgain_of_taken purpose fd place some less
        exact .append (offered.asksAgain_of_mem goes) ih

end FileSystem

/-- A directory is read again after a filled buffer only. -/
theorem Directory.Drained.rounds {fd : Descriptor}
    {result : Except ListingError (List Directory.Entry)} {asked : List Asked}
    (drained : Drained fd result asked) : Rounds asked := by
  induction drained with
  | ended read | stopped read =>
      have ⟨reply, asks, _⟩ := read.exists_reply
      rw [asks]
      exact .single _
  | filled read _ ih =>
      cases read with
      | filled more =>
          have goes : Asked.asksAgain
              ⟨.listing, ⟨.getdents64 fd bufferLength, .ok (row _)⟩⟩ :=
            decide_eq_true (row_ne_nil more)
          exact .append (List.forall_mem_singleton.2 goes) ih

/-! ## Programs -/

namespace Recorded

variable {ω ψ σ α β : Type} [Kernel σ]

/-- Over every kernel the calls are the ones that it answers, and so many of them at most make no
loop ask again. -/
structure Within (asks : ω → Option Asked) (most : Nat) (computation : Recorded ω σ α) :
    Prop where
  served : ∀ kernel, Served kernel ((computation.run kernel).record.filterMap asks)
    (computation.run kernel).state
  conclusions : ∀ kernel, conclusions ((computation.run kernel).record.filterMap asks) ≤ most

namespace Within

variable {asks : ω → Option Asked} {most more : Nat} {computation : Recorded ω σ α}

theorem mono (within : computation.Within asks most) (le : most ≤ more) :
    computation.Within asks more :=
  ⟨within.served, fun kernel => Nat.le_trans (within.conclusions kernel) le⟩

protected theorem pure (value : α) : (pure value : Recorded ω σ α).Within asks 0 :=
  ⟨fun _ => .nil, fun _ => Nat.le_refl 0⟩

protected theorem tell {entry : ω} (silent : asks entry = none) :
    (tell entry : Recorded ω σ Unit).Within asks 0 := by
  constructor
  · intro kernel
    simpa [silent] using Served.nil
  · intro kernel
    simp [silent]

protected theorem bind {next : α → Recorded ω σ β} (first : computation.Within asks most)
    (rest : ∀ value, (next value).Within asks more) :
    (computation >>= next).Within asks (most + more) := by
  constructor
  · intro kernel
    rw [record_bind, List.filterMap_append]
    exact (first.served kernel).trans ((rest _).served _)
  · intro kernel
    rw [record_bind, List.filterMap_append, Asked.conclusions_append]
    exact Nat.add_le_add (first.conclusions kernel) ((rest _).conclusions _)

/-- What goes on without a call asks what it asked before. -/
theorem last {next : α → Recorded ω σ β} (first : computation.Within asks most)
    (rest : ∀ value, (next value).Within asks 0) : (computation >>= next).Within asks most :=
  first.bind rest

/-- What tells of no call costs nothing. -/
theorem after_tell {entry : ω} (silent : asks entry = none)
    (within : computation.Within asks most) :
    (tell entry >>= fun _ => computation).Within asks most := by
  have both := (Within.tell (σ := σ) silent).bind fun _ => within
  rwa [Nat.zero_add] at both

protected theorem map (f : α → β) (within : computation.Within asks most) :
    (f <$> computation).Within asks most := by
  rw [map_eq_pure_bind]
  exact within.bind fun value => .pure (f value)

protected theorem mapRecord {translate : ω → ψ} {shows : ψ → Option Asked}
    (same : ∀ entry, shows (translate entry) = asks entry)
    (within : computation.Within asks most) :
    (computation.mapRecord translate).Within shows most := by
  have alike : ∀ record : List ω,
      (record.map translate).filterMap shows = record.filterMap asks := by
    intro record
    rw [List.filterMap_map]
    exact congrArg (List.filterMap · record) (funext same)
  constructor
  · intro kernel
    rw [run_mapRecord, alike]
    exact within.served kernel
  · intro kernel
    rw [run_mapRecord, alike]
    exact within.conclusions kernel

end Within

end Recorded

namespace Attempt

variable {σ ε δ α β : Type} [Kernel σ]

def Within (most : Nat) (attempt : Attempt σ ε α) : Prop :=
  Recorded.Within Event.asked? most attempt.run

theorem Ensures.within {attempt : Attempt σ ε α} {post : Except ε α → List Asked → Prop}
    {most : Nat} (ensured : attempt.Ensures post)
    (bound : ∀ result asked, post result asked → conclusions asked ≤ most) :
    attempt.Within most :=
  ⟨ensured.served, fun kernel => bound _ _ (ensured.post kernel)⟩

namespace Within

variable {attempt : Attempt σ ε α} {most more : Nat}

theorem mono (within : attempt.Within most) (le : most ≤ more) : attempt.Within more :=
  Recorded.Within.mono within le

protected theorem pure (value : α) : (pure value : Attempt σ ε α).Within 0 :=
  Recorded.Within.pure _

protected theorem throw (error : ε) : (throw error : Attempt σ ε α).Within 0 :=
  Recorded.Within.pure _

protected theorem conclude (result : Except ε α) : (conclude result : Attempt σ ε α).Within 0 :=
  Recorded.Within.pure _

protected theorem log (severity : Severity) (text : String) :
    (log severity text : Attempt σ ε Unit).Within 0 :=
  Recorded.Within.map _ (.tell rfl)

protected theorem bind {next : α → Attempt σ ε β} (first : attempt.Within most)
    (rest : ∀ value, (next value).Within more) : (attempt >>= next).Within (most + more) := by
  apply Recorded.Within.bind first
  intro result
  cases result with
  | ok value => exact rest value
  | error error => exact Recorded.Within.mono (Recorded.Within.pure _) (Nat.zero_le more)

theorem last {next : α → Attempt σ ε β} (first : attempt.Within most)
    (rest : ∀ value, (next value).Within 0) : (attempt >>= next).Within most :=
  first.bind rest

theorem after_log (within : attempt.Within most) (severity : Severity) (text : String) :
    (log severity text >>= fun _ => attempt).Within most := by
  have both := (Within.log (σ := σ) (ε := ε) severity text).bind fun _ => within
  rwa [Nat.zero_add] at both

protected theorem explain (translate : ε → δ) (within : attempt.Within most) :
    (attempt.explain translate).Within most :=
  Recorded.Within.map _ within

protected theorem map (f : α → β) (within : attempt.Within most) : (f <$> attempt).Within most := by
  rw [map_eq_pure_bind]
  exact within.bind fun value => .pure (f value)

protected theorem discard (within : attempt.Within most) : (discard attempt).Within most :=
  within.map _

theorem bind_settle {next : Except ε α → Attempt σ δ β} (first : attempt.Within most)
    (rest : ∀ result, (next result).Within more) :
    (attempt.settle >>= next).Within (most + more) :=
  .bind (Recorded.Within.map Except.ok first) rest

theorem last_settle {next : Except ε α → Attempt σ δ β} (first : attempt.Within most)
    (rest : ∀ result, (next result).Within 0) : (attempt.settle >>= next).Within most :=
  first.bind_settle rest

protected theorem forM {items : List β} {body : β → Attempt σ ε PUnit} {cost : β → Nat}
    (each : ∀ item ∈ items, (body item).Within (cost item)) :
    (items.forM body).Within (items.map cost).sum := by
  induction items with
  | nil => exact .pure _
  | cons item rest ih =>
      have later := ih fun other member => each other (List.mem_cons_of_mem _ member)
      rw [List.forM_eq_forM, List.forM_cons, List.map_cons, List.sum_cons]
      exact (each item List.mem_cons_self).bind fun _ => later

end Within

end Attempt

/-! ## Operations -/

theorem Session.within_perform {σ : Type} [Kernel σ] (purpose : Purpose) (call : Call) :
    (perform (σ := σ) purpose call).Within Event.asked? 1 := by
  constructor
  · exact Session.served_perform purpose call
  · exact fun kernel => (Session.answered_perform purpose call kernel).rounds.conclusions_le

namespace FileSystem

variable {σ ε α : Type} [Kernel σ] {most more : Nat}

theorem within_issue (purpose : Purpose) (call : Call) :
    (issue (σ := σ) purpose call).Within 1 := by
  unfold issue
  split
  · exact (Attempt.Within.throw _).mono (Nat.zero_le 1)
  · exact .explain _ (Session.within_perform purpose call)

theorem within_release (fd : Descriptor) : (release fd : Attempt σ ε Unit).Within 1 :=
  (within_issue .release (.close fd)).bind_settle fun _ => .pure _

/-- Working with an open file takes one call more than opening it and the work. -/
theorem within_withFile {acquire : Attempt σ ε Descriptor} {body : Descriptor → Attempt σ ε α}
    (acquired : acquire.Within most) (works : ∀ fd, (body fd).Within more) :
    (withFile acquire body).Within (most + (more + 1)) :=
  acquired.bind fun fd => (works fd).bind_settle fun _ =>
    (within_release fd).bind fun _ => .conclude _

theorem within_unlessMissing {attempt : Attempt σ IoError α} (within : attempt.Within most) :
    (unlessMissing attempt).Within most := by
  apply within.last_settle
  intro result
  cases result with
  | ok value => exact .pure _
  | error error =>
      dsimp only
      split
      · exact .pure _
      · exact .throw _

theorem within_lookup (purpose : Purpose) (path : Path) :
    (lookup (σ := σ) purpose path).Within 1 :=
  within_unlessMissing (within_issue purpose (.stat path))

theorem within_lookupLink (purpose : Purpose) (path : Path) :
    (lookupLink (σ := σ) purpose path).Within 1 :=
  within_unlessMissing (within_issue purpose (.lstat path))

theorem within_removeStale (path : Path) : (removeStale (σ := σ) path).Within 1 :=
  (within_unlessMissing (within_issue .stale (.unlink path))).bind fun _ => .pure _

theorem within_writeAll (purpose : Purpose) (fd : Descriptor) (place : Placement)
    (bytes : Bytes) : (writeAll (σ := σ) purpose fd place bytes).Within 1 :=
  (ensures_writeAll purpose fd place bytes).within fun _ _ written => written.rounds.conclusions_le

end FileSystem

namespace Directory

variable {σ : Type} [Kernel σ]

theorem within_fill (purpose : Purpose) (fd : Descriptor) :
    (fill (σ := σ) purpose fd).Within 1 :=
  FileSystem.within_issue purpose _

theorem within_list (fd : Descriptor) : (list (σ := σ) fd).Within 1 :=
  (ensures_list_drained fd).within fun _ _ drained => drained.rounds.conclusions_le

end Directory

namespace Snapshot

open FileSystem

variable {σ : Type} [Kernel σ] (snapshot : Snapshot)

theorem within_compare (observed : Identity) (after : String) :
    (snapshot.compare observed after : Attempt σ Failure Unit).Within 0 := by
  unfold compare
  split
  · exact .pure _
  · exact .throw _

theorem within_stable (path : Path) (after : String) :
    (snapshot.stable (σ := σ) path after).Within 1 := by
  apply ((within_lookup .identity path).explain _).last
  intro found
  cases found with
  | none => exact .throw _
  | some metadata => exact .after_log (snapshot.within_compare _ _) _ _

theorem within_stableLink (path : Path) (after : String) :
    (snapshot.stableLink (σ := σ) path after).Within 1 := by
  apply ((within_lookupLink .identity path).explain _).last
  intro found
  cases found with
  | none => exact .throw _
  | some metadata => exact .after_log (snapshot.within_compare _ _) _ _

theorem within_stableOpen (fd : Descriptor) (after : String) :
    (snapshot.stableOpen (σ := σ) fd after).Within 1 :=
  ((within_issue .identity (.fstat fd)).explain _).bind fun _ =>
    .after_log (snapshot.within_compare _ _) _ _

theorem within_stableAll (path : Path) (after : String) :
    (snapshot.stableAll (σ := σ) path after).Within 5 := by
  have opening : (Attempt.strictly "open(O_PATH)" (issue (σ := σ) .acquire
      (.openFile path handleFlags))).Within 1 := (within_issue _ _).explain _
  have handle := within_withFile opening fun fd => snapshot.within_stableOpen fd after
  exact (snapshot.within_stable path after).bind fun _ =>
    (snapshot.within_stableLink path after).bind fun _ => handle

theorem within_absent (path : Path) (after : String) :
    (absent (σ := σ) path after).Within 1 := by
  apply ((within_lookup .absence path).explain _).last
  intro found
  cases found with
  | none => exact .log _ _
  | some metadata => exact .throw _

theorem within_linkCount (path : Path) (minimum : UInt64) (after : String) :
    (linkCount (σ := σ) path minimum after).Within 1 := by
  apply ((within_lookup .linkCount path).explain _).last
  intro found
  cases found with
  | none => exact .throw _
  | some metadata =>
      apply Attempt.Within.after_log
      split
      · exact .throw _
      · exact .pure _

end Snapshot

end CopyUp
