import CopyUp.Proofs.Stages

/-!
# The listing check takes its stages

Each part of the listing check goes from the stage that it starts at to the stage behind it, or
ends there with the failure that the answer calls for. So does the whole check, over every kernel.
-/

namespace CopyUp.Scenario.Enumeration

open Directory

variable {target : Path} {entry : String} {limit : Except Errno UInt64} {stage : Stage}

section

variable (target entry limit)

/-- An attempt goes from one stage to another, which its value tells, or it fails. -/
def Takes {α : Type} (stage : Stage) (next : α → Stage) (result : Except Failure α)
    (asked : List Asked) : Prop :=
  Runs target entry limit stage ((result.map next).mapError .fail) asked

end

variable {σ : Type} [Kernel σ]

theorem ensures_bind_takes {α β : Type} {attempt : Attempt σ Failure α}
    {body : α → Attempt σ Failure β} {between : α → Stage} {last : β → Stage}
    (first : attempt.Ensures (Takes target entry limit stage between))
    (later : ∀ value, (body value).Ensures (Takes target entry limit (between value) last)) :
    (attempt >>= body).Ensures (Takes target entry limit stage last) := by
  refine first.bind (fun error asked failed => failed) fun value asked taken => ?_
  exact (later value).mono fun result more rest => Runs.trans taken rest

/-- A stage that releases nothing is left as its answer tells. -/
theorem ensures_takes_of_answer {α : Type} {attempt : Attempt σ Failure α} {next : α → Stage}
    (answered : attempt.Ensures fun result asked => ∃ answer,
      stage.Asks target entry limit answer asked ∧
        Exits target entry stage answer none ((result.map next).mapError .fail)) :
    attempt.Ensures (Takes target entry limit stage next) := by
  refine answered.mono fun result asked told => ?_
  have ⟨answer, asks, exits⟩ := told
  exact exits.runs_silently asks

/-- The same for a stage that asks once. -/
theorem ensures_takes_of_asksOnce {α : Type} {attempt : Attempt σ Failure α} {next : α → Stage}
    {purpose : Purpose} {call : Call} {outcome : Except Errno call.Reply → Except Failure α}
    (asks : attempt.AsksOnce purpose call outcome)
    (answers : ∀ reply, ∃ answer,
      stage.Asks target entry limit answer [⟨purpose, ⟨call, reply⟩⟩] ∧
        Exits target entry stage answer none (((outcome reply).map next).mapError .fail)) :
    attempt.Ensures (Takes target entry limit stage next) :=
  ensures_takes_of_answer (asks.ensures_each answers)

def refusal (operation : String) (expected : Errno) : Except IoError Bytes → Except Failure Unit
  | .ok _ => .error (.unexpectedSuccess operation expected)
  | .error error =>
    if error = .os expected then .ok () else .error (.wrongError operation expected error)

theorem refusal_of_errno (operation : String) (expected errno : Errno) :
    refusal operation expected (.error (.os errno)) =
      if errno = expected then .ok ()
      else .error (.wrongError operation expected (.os errno)) := by
  simp only [refusal, IoError.os.injEq]

theorem asksOnce_expectError (operation : String) (expected : Errno) (fd : Descriptor) :
    (expectError (σ := σ) operation expected fd).AsksOnce .probe (.getdents64 fd bufferLength)
      fun reply => refusal operation expected (reply.mapError .os) := by
  refine (asksOnce_fill .probe fd).bind_settle _ fun result => ?_
  cases result with
  | ok bytes => exact .throw _
  | error error =>
      unfold refusal
      by_cases right : error = .os expected
      · simp only [right, if_true]
        exact .log _ _
      · simp only [right, if_false]
        exact .throw _

theorem ensures_openDirectory (clean : ¬ target.HasNul) :
    (Attempt.strictly "open(O_DIRECTORY)"
      (FileSystem.issue (σ := σ) .acquire (.openFile target directoryFlags))).Ensures
        (Takes target entry limit .opening .listing) := by
  apply ensures_takes_of_answer
  refine ((FileSystem.opens_issue clean directoryFlags).explain _).mono fun result asked told => ?_
  have ⟨reply, same, answered⟩ := told
  refine ⟨reply, answered, ?_⟩
  cases reply with
  | ok fd => exact same ▸ .opened
  | error errno => exact same ▸ .unopened

/-- To release a number never fails, and what follows here asks nothing. -/
theorem ensures_release {ε α : Type} {fd : Descriptor} {next : Unit → Attempt σ ε α}
    {result : Except ε α} {post : Except ε α → List Asked → Prop} (silent : (next ()).Silent result)
    (holds : ∀ reply, post result [⟨.release, ⟨.close fd, reply⟩⟩]) :
    (FileSystem.release fd >>= next).Ensures post := by
  refine (FileSystem.asksOnce_release fd).ensures_bind ?_ fun reply _ _ => ?_
  · intro _ _ impossible
    contradiction
  · exact silent.ensures_of (holds reply)

theorem ensures_park (fd : Descriptor) :
    (park (σ := σ) limit fd).Ensures (Takes target entry limit (.parking fd) .closing) := by
  have dups := FileSystem.asksOnce_issue (σ := σ) .acquire
    (show ∀ path ∈ (Call.dup fd (parkingNumber limit)).paths, ¬ path.HasNul by simp [Call.paths])
    (by simp [Call.restarts])
  refine Attempt.Ensures.bind_settle (dups.ensures_each fun reply => ?_)
  have answered := answered_once .acquire (.dup fd (parkingNumber limit)) Bool.false_ne_true reply
  cases reply with
  | ok parked =>
      refine ensures_release (.pure parked) fun closed => ?_
      exact Exits.parked.runs answered .some
  | error errno =>
      simp only [Attempt.mapError_error, IoError.os.injEq]
      by_cases crowded : errno = .einval ∨ errno = .emfile
      · rw [if_pos crowded]
        have stays : (pure fd : Attempt σ Failure Descriptor).Silent (.ok fd) := .pure fd
        refine (stays.after_log _ _).ensures_of ?_
        exact (Exits.stays crowded).runs answered .none
      · rw [if_neg crowded]
        refine ensures_release (.throw _) fun closed => ?_
        exact (Exits.unparked crowded).runs answered .some

theorem ensures_relinquish (fd : Descriptor) :
    (Attempt.strictly "close" (discard (FileSystem.issue (σ := σ) .relinquish (.close fd)))).Ensures
      (Takes target entry limit (.closing fd) fun _ => .probing fd) := by
  have closes := FileSystem.asksOnce_issue (σ := σ) .relinquish
    (show ∀ path ∈ (Call.close fd).paths, ¬ path.HasNul by simp [Call.paths])
    (by simp [Call.restarts])
  have strict := closes.discard.explain (Failure.call "close")
  refine ensures_takes_of_asksOnce strict fun reply => ?_
  refine ⟨reply, answered_once .relinquish (.close fd) Bool.false_ne_true reply, ?_⟩
  cases reply with
  | ok => exact .closed
  | error errno => exact .unclosed

theorem ensures_probe (fd : Descriptor) :
    (expectError (σ := σ) "getdents64 (closed descriptor)" .ebadf fd).Ensures
      (Takes target entry limit (.probing fd) fun _ => .reopening) := by
  refine ensures_takes_of_asksOnce (asksOnce_expectError _ _ fd) fun reply => ?_
  refine ⟨reply, answered_once .probe (.getdents64 fd bufferLength) Bool.false_ne_true reply, ?_⟩
  cases reply with
  | ok bytes => exact .granted
  | error errno =>
      rw [Attempt.mapError_error, refusal_of_errno]
      by_cases right : errno = .ebadf
      · rw [if_pos right, right]
        exact .refused
      · rw [if_neg right]
        exact .misjudged right

theorem ensures_checkClosed (fd : Descriptor) :
    (checkClosed (σ := σ) limit fd).Ensures
      (Takes target entry limit (.parking fd) fun _ => .reopening) := by
  refine ensures_bind_takes (ensures_park fd) fun parked => ?_
  exact ensures_bind_takes (ensures_relinquish parked) fun _ => ensures_probe parked

/-- The way out of a listing that a judgement on it takes. -/
def ListingExits (target : Path) (entry : String) (fd : Descriptor)
    (answer : Except ListingError (List Entry)) : Except Failure Unit → Prop
  | .ok () => Exits target entry (.listing fd) answer none (.ok (.parking fd))
  | .error failure =>
    Exits target entry (.listing fd) answer (some fd) (.error (.fail failure))

theorem exits_judgeListing (target : Path) (entry : String) (fd : Descriptor)
    (entries : List Entry) :
    ListingExits target entry fd (.ok entries) (judgeListing target entry entries) := by
  cases entries with
  | nil => exact .empty
  | cons head tail =>
      unfold judgeListing
      cases sought : (head :: tail).find? fun candidate => candidate.name = .ofText entry with
      | none => exact .unnamed (by simp) (by simpa using sought)
      | some found =>
          have first := firstNamed_iff.2 sought
          by_cases regular : found.kind = .regular
          · simp only [regular, if_true]
            exact .listed first regular
          · simp only [regular, if_false]
            exact .misfiled first regular

theorem ensures_checkListing (fd : Descriptor) :
    (checkListing (σ := σ) target entry fd).Ensures fun result asked =>
      ∃ answer, Drained fd answer asked ∧ ListingExits target entry fd answer result := by
  have drains : (Attempt.explain (Failure.listing target) (list (σ := σ) fd)).Ensures
      fun result asked => ∃ answer,
        Drained fd answer asked ∧ result = answer.mapError (.listing target) :=
    .explain ((ensures_list_drained fd).mono fun answer _ drained => ⟨answer, drained, rfl⟩)
  refine drains.bind ?_ ?_
  · intro failure asked told
    have ⟨answer, drained, same⟩ := told
    cases answer with
    | ok => contradiction
    | error error =>
        cases same
        exact ⟨_, drained, .unlisted⟩
  · intro entries asked told
    have ⟨answer, drained, same⟩ := told
    cases Attempt.mapError_eq_ok_iff.1 same.symm
    have judged : (Attempt.conclude (judgeListing target entry entries) :
        Attempt σ Failure Unit).Silent (judgeListing target entry entries) :=
      fun _ => ⟨rfl, rfl, rfl⟩
    refine (judged.after_log _ _).ensures_of ⟨.ok entries, ?_, exits_judgeListing ..⟩
    rw [List.append_nil]
    exact drained

theorem ensures_checkDirectory (fd : Descriptor) :
    (checkDirectory (σ := σ) target entry limit fd).Ensures
      (Takes target entry limit (.listing fd) fun _ => .reopening) := by
  have closes : (checkClosed (σ := σ) limit fd).Ensures
      (Takes target entry limit (.parking fd) fun _ => .reopening) := ensures_checkClosed fd
  refine Attempt.Ensures.bind_settle ((ensures_checkListing fd).mono fun result asked told => ?_)
  have ⟨answer, drained, exits⟩ := told
  cases result with
  | ok =>
      refine closes.mono fun final more rest => ?_
      exact (Exits.runs_silently exits drained).trans rest
  | error failure =>
      exact ensures_release (.throw _) fun closed => Exits.runs exits drained .some

theorem ensures_checkFile (clean : ¬ (target.join entry).HasNul) :
    (checkFile (σ := σ) (target.join entry)).Ensures
      (Takes target entry limit .reopening fun _ => .passed) := by
  have opens := (FileSystem.opens_issue (σ := σ) clean fileFlags).explain
    (Failure.call "open(O_RDONLY)")
  refine opens.ensures_withFile ?_ ?_
  · intro errno asked answered
    exact Exits.unreopened.runs_silently answered
  intro fd asked answered
  have opened : Runs target entry limit .reopening (.ok (.reading fd)) asked :=
    Exits.reopened.runs_silently answered
  refine (asksOnce_expectError _ _ fd).ensures_each fun reply closed => ?_
  have read := answered_once .probe (.getdents64 fd bufferLength) Bool.false_ne_true reply
  rw [List.append_assoc]
  refine opened.trans ?_
  cases reply with
  | ok bytes => exact Exits.grantedFile.runs read .some
  | error errno =>
      rw [Attempt.mapError_error, refusal_of_errno]
      by_cases right : errno = .enotdir
      · rw [if_pos right, right]
        exact Exits.refusedFile.runs (right ▸ read) .some
      · rw [if_neg right]
        exact (Exits.misjudgedFile right).runs read .some

theorem ensures_checkBoth (clean : ¬ target.HasNul) (named : ¬ (target.join entry).HasNul) :
    (checkBoth (σ := σ) target entry limit).Ensures
      (Takes target entry limit .opening fun _ => .passed) := by
  refine ensures_bind_takes (ensures_openDirectory clean) fun fd => ?_
  exact ensures_bind_takes (ensures_checkDirectory fd) fun _ => ensures_checkFile named

def ending (verdict : Except Interrupt Unit) : Except Interrupt Stage :=
  verdict.map fun _ => .passed

/-- Over every kernel the check goes from stage to stage. -/
theorem ensures_run (clean : ¬ target.HasNul) (named : ¬ Path.HasNul entry) :
    (run (σ := σ) target entry limit).Ensures fun result asked =>
      Runs target entry limit .presence (ending result) asked := by
  have plain := Path.not_hasNul_join clean named
  have looks := ((FileSystem.asksOnce_lookupLink (σ := σ) .presence plain).explain
    (Failure.call "lstat")).explain Interrupt.fail
  have once := answered_once .presence (.lstat (target.join entry)) Bool.false_ne_true
  refine looks.ensures_bind ?_ ?_
  · intro reply interrupt failed
    cases reply with
    | ok => contradiction
    | error errno =>
        by_cases missing : errno = .enoent
        · simp [FileSystem.found, missing] at failed
        · have same : Interrupt.fail (.call "lstat" (.os errno)) = interrupt := by
            simpa [FileSystem.found, missing] using failed
          rw [← same]
          exact (Exits.unseen missing).runs_silently (once _)
  · intro reply found seen
    cases reply with
    | ok metadata =>
        cases seen
        have checks : (checkBoth (σ := σ) target entry limit).Ensures
            (Takes target entry limit .opening fun _ => .passed) := ensures_checkBoth clean plain
        refine .explain (checks.mono fun result more rest => ?_)
        have first : Runs target entry limit .presence (.ok .opening) _ :=
          Exits.present.runs_silently (once (.ok metadata))
        have ends := first.trans rest
        cases result <;> exact ends
    | error errno =>
        by_cases missing : errno = .enoent
        · have same : found = none := by simpa [FileSystem.found, missing, eq_comm] using seen
          rw [same, missing]
          let skipped : Interrupt := .skip (.entryMissing entry target)
          have skips : (throw skipped : Attempt σ Interrupt Unit).Silent (.error skipped) :=
            .throw _
          refine (skips.after_log _ _).ensures_of ?_
          exact Exits.missing.runs_silently (once (.error .enoent))
        · simp [FileSystem.found, missing] at seen

end CopyUp.Scenario.Enumeration
