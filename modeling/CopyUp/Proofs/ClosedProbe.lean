import CopyUp.Proofs.Descriptors
import CopyUp.Proofs.Verdicts

/-!
# The probe of a closed directory

Before the check reads from a closed number it moves the directory out of the way, or leaves it
where it is if there is no room elsewhere, and closes it on purpose. On whatever way a stage is
reached, what has been asked before it has one form, so it is known what a probe finds: the number
that it reads from was closed just before, and of the numbers handed out none is left open.
-/

namespace CopyUp.Scenario.Enumeration

open Directory

/-! ## The number to park at -/

/-- The lowest number to park at is as high as the limit on open files lets it be. -/
structure Fits (limit : Except Errno UInt64) (floor : Int) : Prop where
  nonnegative : 0 ≤ floor
  le_floor : floor ≤ 256
  unlimited : ∀ errno, limit = .error errno → floor = 256
  eq_min : ∀ soft : UInt64, limit = .ok soft → floor = min 256 (max ((soft.toNat : Int) - 1) 0)
  lt_limit : ∀ soft : UInt64, limit = .ok soft → floor < max (soft.toNat : Int) 1

theorem fits_parkingNumber (limit : Except Errno UInt64) : Fits limit (parkingNumber limit) := by
  cases limit with
  | error errno => exact ⟨Int.natCast_nonneg _, Int.le_refl _, fun _ _ => rfl, nofun, nofun⟩
  | ok soft =>
      have same : parkingNumber (.ok soft) = min (soft.toNat - 1) 256 := rfl
      rw [same]
      refine ⟨by omega, by omega, nofun, ?_, ?_⟩
      · intro other equal
        cases equal
        omega
      · intro other equal
        cases equal
        omega

/-! ## What has been asked at a stage -/

structure Aside (one : Asked) : Prop where
  unmoved : ∀ fd floor, one.call ≠ .dup fd floor
  kept : one.purpose ≠ .relinquish

structure Idle (one : Asked) : Prop extends Aside one where
  unprobed : one.purpose ≠ .probe

/-- Nothing has been moved, closed or probed; some numbers have been handed out. -/
structure Untouched (opened : List Descriptor) (asked : List Asked) : Prop where
  idle : ∀ one ∈ asked, Idle one
  handed : Asked.openedAll asked = opened
  unclosed : ∀ one ∈ asked, one.closed? = none

theorem Untouched.nil : Untouched [] [] := ⟨by simp, rfl, by simp⟩

theorem Untouched.append {opened others : List Descriptor} {first second : List Asked}
    (left : Untouched opened first) (right : Untouched others second) :
    Untouched (opened ++ others) (first ++ second) where
  idle := List.forall_mem_append.2 ⟨left.idle, right.idle⟩
  handed := by rw [Asked.openedAll, List.filterMap_append, ← left.handed, ← right.handed]; rfl
  unclosed := List.forall_mem_append.2 ⟨left.unclosed, right.unclosed⟩

structure Opened (target : Path) (fd : Descriptor) (asked : List Asked) : Prop where
  untouched : Untouched [fd] asked
  opener : ⟨.acquire, ⟨.openFile target directoryFlags, .ok fd⟩⟩ ∈ asked

/-- The directory is moved to another number, or it stays because there is no room for it. -/
inductive Parks (limit : Except Errno UInt64) (fd : Descriptor) : Descriptor → List Asked → Prop
  | moved {last : Descriptor} {closed : Except Errno Unit} :
      Parks limit fd last [⟨.acquire, ⟨.dup fd (parkingNumber limit), .ok last⟩⟩,
        ⟨.release, ⟨.close fd, closed⟩⟩]
  | stays {errno : Errno} (crowded : errno = .einval ∨ errno = .emfile) :
      Parks limit fd fd [⟨.acquire, ⟨.dup fd (parkingNumber limit), .error errno⟩⟩]

section

variable (target : Path) (limit : Except Errno UInt64)

inductive Parked (last : Descriptor) : List Asked → Prop
  | intro {fd : Descriptor} {before parking : List Asked} (opened : Opened target fd before)
      (parks : Parks limit fd last parking) : Parked last (before ++ parking)

inductive Probed : List Asked → Prop
  | intro {last : Descriptor} {reply : Except Errno Bytes} {before after : List Asked}
      (parked : Parked target limit last before) (later : ∀ one ∈ after, Aside one) :
      Probed (before ++ [⟨.relinquish, ⟨.close last, .ok ()⟩⟩] ++
        ⟨.probe, ⟨.getdents64 last bufferLength, reply⟩⟩ :: after)

/-- What has been asked when a stage is reached. -/
def Reached : Stage → List Asked → Prop
  | .presence, asked | .opening, asked => Untouched [] asked
  | .listing fd, asked | .parking fd, asked => Opened target fd asked
  | .closing last, asked => Parked target limit last asked
  | .probing last, asked => ∃ before, Parked target limit last before ∧
      asked = before ++ [⟨.relinquish, ⟨.close last, .ok ()⟩⟩]
  | .reopening, asked | .reading _, asked | .passed, asked => Probed target limit asked

/-- What comes of a whole run: it ends before it moves the directory, it fails to move or to close
it, or it probes. -/
inductive Course : Except Interrupt Stage → List Asked → Prop
  | idle {interrupt : Interrupt} {asked : List Asked} (each : ∀ one ∈ asked, Idle one) :
      Course (.error interrupt) asked
  | unparked {fd : Descriptor} {errno : Errno} {closed : Except Errno Unit} {before : List Asked}
      (opened : Opened target fd before) :
      Course (.error (.fail (.call "fcntl(F_DUPFD_CLOEXEC)" (.os errno))))
        (before ++ [⟨.acquire, ⟨.dup fd (parkingNumber limit), .error errno⟩⟩,
          ⟨.release, ⟨.close fd, closed⟩⟩])
  | unclosed {last : Descriptor} {errno : Errno} {before : List Asked}
      (parked : Parked target limit last before) :
      Course (.error (.fail (.call "close" (.os errno))))
        (before ++ [⟨.relinquish, ⟨.close last, .error errno⟩⟩])
  | probed {result : Except Interrupt Stage} {asked : List Asked}
      (probed : Probed target limit asked) : Course result asked

end

variable {target : Path} {entry : String} {limit : Except Errno UInt64} {stage next : Stage}
  {result : Except Interrupt Stage} {asked more : List Asked} {fd last : Descriptor}

/-! ## From stage to stage -/

theorem idle_of_lstat {path : Path} (reply : Except Errno Metadata) :
    Idle ⟨.presence, ⟨.lstat path, reply⟩⟩ := ⟨⟨nofun, nofun⟩, nofun⟩

theorem idle_of_release (fd : Descriptor) (reply : Except Errno Unit) :
    Idle ⟨.release, ⟨.close fd, reply⟩⟩ := ⟨⟨nofun, nofun⟩, nofun⟩

theorem idle_of_opening {path : Path} {flags : OpenFlags} {reply : Except Errno Descriptor}
    (answered : Answered .acquire (.openFile path flags) reply asked) :
    ∀ one ∈ asked, Idle one := by
  intro one member
  have ⟨purpose, call⟩ := answered.same member
  exact ⟨⟨fun fd floor => by rw [call]; exact nofun, by rw [purpose]; exact nofun⟩,
    by rw [purpose]; exact nofun⟩

theorem opened_of_answered (untouched : Untouched [] asked)
    (answered : Answered .acquire (.openFile target directoryFlags) (.ok fd) more) :
    Opened target fd (asked ++ more) := by
  have ⟨interrupted, split, alike⟩ := answered.exists_eq_append
  have opens : Untouched [fd] more := by
    refine ⟨idle_of_opening answered, ?_, fun one member => ?_⟩
    · have none : Asked.openedAll interrupted = [] := by
        apply List.filterMap_eq_nil_iff.2
        intro one member
        rw [alike one member]
        rfl
      rw [split, Asked.openedAll, List.filterMap_append]
      exact congrArg (· ++ [fd]) none
    · rw [Asked.closed?, (answered.same member).2]
  exact ⟨untouched.append opens, by simp [split]⟩

theorem untouched_of_drained {answer : Except ListingError (List Entry)}
    (drained : Drained fd answer asked) : Untouched [] asked := by
  have once : ∀ {result : Except ListingError (Option (List Entry))} {asked : List Asked},
      Buffered fd result asked → Untouched [] asked := by
    intro result asked read
    have ⟨reply, same, _⟩ := read.exists_reply
    rw [same]
    refine ⟨List.forall_mem_singleton.2 ⟨⟨nofun, nofun⟩, nofun⟩, rfl, ?_⟩
    exact List.forall_mem_singleton.2 rfl
  induction drained with
  | ended read | stopped read => exact once read
  | filled read _ ih => exact (once read).append ih

theorem Opened.append (opened : Opened target fd asked) (untouched : Untouched [] more) :
    Opened target fd (asked ++ more) :=
  ⟨opened.untouched.append untouched, List.mem_append_left _ opened.opener⟩

theorem Probed.append (probed : Probed target limit asked) (later : ∀ one ∈ more, Aside one) :
    Probed target limit (asked ++ more) := by
  cases probed with
  | intro parked others =>
      rw [List.append_assoc]
      exact .intro parked (List.forall_mem_append.2 ⟨others, later⟩)

theorem Leaves.parks
    (leaves : Leaves target entry limit (.parking fd) (.ok (.closing last)) asked) :
    Parks limit fd last asked := by
  cases leaves with
  | intro asks exits releases =>
      cases exits with
      | parked =>
          cases releases
          rw [asks.eq_of_not_restarts Bool.false_ne_true]
          exact .moved
      | stays crowded =>
          cases releases
          rw [asks.eq_of_not_restarts Bool.false_ne_true]
          exact .stays crowded

theorem aside_of_probe (fd : Descriptor) (reply : Except Errno Bytes) :
    Aside ⟨.probe, ⟨.getdents64 fd bufferLength, reply⟩⟩ := ⟨nofun, nofun⟩

/-- What is asked at a stage leads from what was asked before to what is asked before the next. -/
theorem Leaves.reached (leaves : Leaves target entry limit stage (.ok next) more)
    (reached : Reached target limit stage asked) : Reached target limit next (asked ++ more) := by
  cases stage with
  | presence =>
      have ⟨same, metadata, once⟩ := leaves.of_presence
      rw [same, once]
      refine Untouched.append reached ⟨?_, rfl, List.forall_mem_singleton.2 rfl⟩
      exact List.forall_mem_singleton.2 (idle_of_lstat _)
  | opening =>
      have ⟨fd, same, answered⟩ := leaves.of_opening
      rw [same]
      exact opened_of_answered reached answered
  | listing fd =>
      have ⟨same, _, _, drained, _⟩ := leaves.of_listing
      rw [same]
      exact Opened.append reached (untouched_of_drained drained)
  | parking fd =>
      have ⟨last, same⟩ := leaves.of_parking
      cases same
      exact .intro reached leaves.parks
  | closing last =>
      have ⟨same, once⟩ := leaves.of_closing
      rw [same, once]
      exact ⟨asked, reached, rfl⟩
  | probing last =>
      have ⟨same, once⟩ := leaves.of_probing
      have ⟨before, parked, split⟩ := reached
      rw [same, once, split]
      exact .intro parked (by simp)
  | reopening =>
      have ⟨fd, same, answered⟩ := leaves.of_reopening
      rw [same]
      exact Probed.append reached fun one member => (idle_of_opening answered one member).toAside
  | reading fd =>
      have ⟨same, closed, both⟩ := leaves.of_reading
      rw [same, both]
      refine Probed.append reached ?_
      simpa using ⟨aside_of_probe fd _, (idle_of_release fd closed).toAside⟩
  | passed => exact absurd leaves not_leaves_passed

/-- The same where the stage is left with a verdict. -/
theorem Leaves.course {interrupt : Interrupt}
    (leaves : Leaves target entry limit stage (.error interrupt) more)
    (reached : Reached target limit stage asked) :
    Course target limit (.error interrupt) (asked ++ more) := by
  cases leaves with
  | intro asks exits releases =>
      cases exits with
      | missing | unseen =>
          cases releases
          rw [List.append_nil, asks.eq_of_not_restarts Bool.false_ne_true]
          refine .idle (List.forall_mem_append.2 ⟨Untouched.idle reached, ?_⟩)
          exact List.forall_mem_singleton.2 (idle_of_lstat _)
      | unopened =>
          cases releases
          rw [List.append_nil]
          exact .idle (List.forall_mem_append.2 ⟨Untouched.idle reached, idle_of_opening asks⟩)
      | unlisted | empty | unnamed | misfiled =>
          cases releases
          rw [← List.append_assoc]
          refine .idle (List.forall_mem_append.2 ⟨?_, ?_⟩)
          · exact (Opened.append reached (untouched_of_drained asks)).untouched.idle
          · exact List.forall_mem_singleton.2 (idle_of_release _ _)
      | unparked =>
          cases releases
          rw [asks.eq_of_not_restarts Bool.false_ne_true]
          exact .unparked reached
      | unclosed =>
          cases releases
          rw [List.append_nil, asks.eq_of_not_restarts Bool.false_ne_true]
          exact .unclosed reached
      | granted | misjudged =>
          cases releases
          have ⟨before, parked, split⟩ := reached
          rw [List.append_nil, asks.eq_of_not_restarts Bool.false_ne_true, split]
          exact .probed (.intro parked (by simp))
      | unreopened =>
          cases releases
          rw [List.append_nil]
          exact .probed (Probed.append reached
            fun one member => (idle_of_opening asks one member).toAside)
      | grantedFile | misjudgedFile =>
          cases releases
          rw [asks.eq_of_not_restarts Bool.false_ne_true]
          refine .probed (Probed.append reached ?_)
          simpa using ⟨aside_of_probe _ _, (idle_of_release _ _).toAside⟩

theorem Runs.course (runs : Runs target entry limit stage result more) (ended : Ended result)
    (reached : Reached target limit stage asked) :
    Course target limit result (asked ++ more) := by
  induction runs generalizing asked with
  | rests =>
      cases ended _ rfl
      rw [List.append_nil]
      exact .probed reached
  | ends leaves => exact leaves.course reached
  | goes leaves _ ih =>
      rw [← List.append_assoc]
      exact ih ended (leaves.reached reached)

/-! ## Whole runs -/

section

variable {σ : Type} [Kernel σ]

/-- The directory cannot be opened if its name cannot be passed on. -/
theorem silent_checkBoth (nul : target.HasNul) :
    (checkBoth (σ := σ) target entry limit).Silent
      (.error (.call "open(O_DIRECTORY)"
        (FileSystem.nulRefusal (.openFile target directoryFlags)))) := by
  have member : target ∈ (Call.openFile target directoryFlags).paths := List.mem_singleton.2 rfl
  intro kernel
  unfold checkBoth
  rw [Attempt.exec_bind, Attempt.strictly, Attempt.exec_explain,
    FileSystem.exec_issue_of_hasNul .acquire member nul]
  exact ⟨rfl, rfl, rfl⟩

/-- With a name that cannot be passed on there is no directory to move. -/
theorem course_of_hasNul (nul : target.HasNul ∨ Path.HasNul entry) (limit : Except Errno UInt64)
    (kernel : σ) :
    Course target limit (ending ((run target entry limit).exec kernel).value)
      (Trace.asked ((run target entry limit).exec kernel).record) := by
  by_cases named : (target.join entry).HasNul
  · have member : target.join entry ∈ (Call.lstat (target.join entry)).paths :=
      List.mem_singleton.2 rfl
    unfold run FileSystem.lookupLink
    simp only [Attempt.exec_bind, Attempt.must, Attempt.strictly, Attempt.exec_explain,
      FileSystem.exec_unlessMissing, FileSystem.exec_issue_of_hasNul .presence member named]
    exact .idle fun one member => absurd member List.not_mem_nil
  · have unopened := nul.resolve_right fun nul => named (Path.hasNul_join nul)
    have looks := ((FileSystem.asksOnce_lookupLink (σ := σ) .presence named).explain
      (Failure.call "lstat")).explain Interrupt.fail
    have course : (run (σ := σ) target entry limit).Ensures fun result asked =>
        Course target limit (ending result) asked := by
      refine looks.ensures_bind ?_ fun reply found _ => ?_
      · intro reply _ _
        exact .idle (List.forall_mem_singleton.2 (idle_of_lstat reply))
      · have look : Idle ⟨.presence, ⟨.lstat (target.join entry), reply⟩⟩ := idle_of_lstat reply
        have once := List.forall_mem_singleton.2 look
        cases found with
        | none =>
            let skipped : Interrupt := .skip (.entryMissing entry target)
            have skips : (throw skipped : Attempt σ Interrupt Unit).Silent (.error skipped) :=
              .throw _
            exact (skips.after_log _ _).ensures_of (.idle once)
        | some metadata =>
            exact .explain ((silent_checkBoth unopened).ensures_of (.idle once))
    exact course.post kernel

theorem course_run (target : Path) (entry : String) (limit : Except Errno UInt64) (kernel : σ) :
    Course target limit (ending ((run target entry limit).exec kernel).value)
      (Trace.asked ((run target entry limit).exec kernel).record) := by
  by_cases nul : target.HasNul ∨ Path.HasNul entry
  · exact course_of_hasNul nul limit kernel
  · have ⟨clean, named⟩ := not_or.1 nul
    have runs : Runs target entry limit .presence _ _ := (ensures_run clean named).post kernel
    have start : Reached target limit .presence [] := Untouched.nil
    have course := runs.course (ended_ending _) start
    rwa [List.nil_append] at course

end

/-! ## What a probe finds -/

/-- Where the directory stands by the answer to its move. -/
inductive Stands (fd : Descriptor) : Descriptor → Except Errno Descriptor → Prop
  | moved {last : Descriptor} (apart : last ≠ fd) : Stands fd last (.ok last)
  | stays {errno : Errno} (crowded : errno = .einval ∨ errno = .emfile) :
      Stands fd fd (.error errno)

/-- Everything that was opened has been closed, the directory just now and by the number at which
it stood last. -/
structure Relinquished (target : Path) (last : Descriptor) (asked : List Asked) : Prop where
  closed : ∃ before, asked = before ++ [⟨.relinquish, ⟨.close last, .ok ()⟩⟩]
  once : ∀ one ∈ asked, ∀ number, one.opened? = some number → Ledger.closings number asked = 1
  tried : ∃ one ∈ asked, ∃ fd floor, one.call = .dup fd floor
  stands : ∀ one ∈ asked, ∀ fd floor reply, one.exchange = ⟨.dup fd floor, reply⟩ →
    ⟨.acquire, ⟨.openFile target directoryFlags, .ok fd⟩⟩ ∈ asked ∧ Stands fd last reply

structure GivesUp (target : Path) (operation : String) (errno : Errno)
    (result : Except Interrupt Unit) (asked : List Asked) : Prop where
  failed : result = .error (.fail (.call operation (.os errno)))
  unprobed : ∀ one ∈ asked, one.purpose ≠ .probe
  closed : ∃ fd, ⟨.acquire, ⟨.openFile target directoryFlags, .ok fd⟩⟩ ∈ asked ∧
    ∃ one ∈ asked, one.closed? = some fd

theorem Untouched.closings {opened : List Descriptor} (untouched : Untouched opened asked)
    (number : Descriptor) : Ledger.closings number asked = 0 := by
  apply List.countP_eq_zero.2
  intro one member
  simp [untouched.unclosed one member]

theorem Opened.eq_of_opened? (opened : Opened target fd asked) {one : Asked} (member : one ∈ asked)
    {number : Descriptor} (same : one.opened? = some number) : number = fd := by
  have handed : number ∈ Asked.openedAll asked := List.mem_filterMap.2 ⟨one, member, same⟩
  rw [opened.untouched.handed] at handed
  exact List.mem_singleton.1 handed

theorem Opened.not_dup (opened : Opened target fd asked) {one : Asked} (member : one ∈ asked)
    {number floor : Descriptor} {reply : Except Errno Descriptor} :
    one.exchange ≠ ⟨.dup number floor, reply⟩ := by
  intro same
  exact (opened.untouched.idle one member).unmoved number floor (congrArg Exchange.call same)

theorem Opened.openings_pos (opened : Opened target fd asked) : 0 < Ledger.openings fd asked :=
  List.countP_pos_iff.2 ⟨_, opened.opener, decide_eq_true rfl⟩

/-- If no number is handed out twice, the directory does not stay where it is by being moved. -/
theorem Opened.apart (opened : Opened target fd asked) {floor : Descriptor} {rest : List Asked}
    (served : Ledger.openings fd (asked ++ ⟨.acquire, ⟨.dup fd floor, .ok last⟩⟩ :: rest) ≤ 1) :
    last ≠ fd := by
  intro same
  have first := opened.openings_pos
  simp only [Ledger.openings, Asked.opened?, List.countP_append, List.countP_cons, same,
    decide_true, if_true] at served first
  omega

/-- It is enough to know what the move was answered, and that each number is closed once behind
it. -/
theorem Opened.relinquished (opened : Opened target fd asked) {floor : Descriptor}
    {reply : Except Errno Descriptor} {released : List Asked} (stands : Stands fd last reply)
    (idle : ∀ one ∈ released, Idle one ∧ one.opened? = none)
    (once : ∀ number, number = fd ∨ reply = .ok number →
      Ledger.closings number (released ++ [⟨.relinquish, ⟨.close last, .ok ()⟩⟩]) = 1) :
    Relinquished target last (asked ++ ⟨.acquire, ⟨.dup fd floor, reply⟩⟩ :: released ++
      [⟨.relinquish, ⟨.close last, .ok ()⟩⟩]) := by
  refine ⟨⟨_, rfl⟩, ?_, ⟨⟨.acquire, ⟨.dup fd floor, reply⟩⟩, by simp, fd, floor, rfl⟩, ?_⟩
  · intro one member number same
    have handed : number = fd ∨ reply = .ok number := by
      simp only [List.mem_append, List.mem_cons, List.not_mem_nil, or_false] at member
      rcases member with (old | rfl | later) | rfl
      · exact .inl (opened.eq_of_opened? old same)
      · cases reply with
        | ok other => exact .inr (congrArg Except.ok (Option.some.inj same))
        | error => contradiction
      · rw [(idle one later).2] at same
        contradiction
      · contradiction
    rw [List.append_assoc, List.cons_append, Ledger.closings_append,
      opened.untouched.closings number, Nat.zero_add]
    exact once number handed
  · intro one member number bound answer same
    simp only [List.mem_append, List.mem_cons, List.not_mem_nil, or_false] at member
    rcases member with (old | rfl | later) | rfl
    · exact absurd same (opened.not_dup old)
    · cases same
      exact ⟨by simp [opened.opener], stands⟩
    · exact absurd (congrArg Exchange.call same) ((idle one later).1.unmoved number bound)
    · cases same

theorem Parked.relinquished (parked : Parked target limit last asked)
    (served : ∀ number, Ledger.openings number asked ≤ 1) :
    Relinquished target last (asked ++ [⟨.relinquish, ⟨.close last, .ok ()⟩⟩]) := by
  cases parked with
  | @intro fd before parking opened parks =>
      cases parks with
      | moved =>
          have apart := opened.apart (served fd)
          refine opened.relinquished (.moved apart) ?_ fun number handed => ?_
          · exact List.forall_mem_singleton.2 ⟨idle_of_release _ _, rfl⟩
          · rcases handed with rfl | same
            · simp [Ledger.closings, Asked.closed?, Asked.call, apart]
            · cases same
              simp [Ledger.closings, Asked.closed?, Asked.call, Ne.symm apart]
      | stays crowded =>
          refine opened.relinquished (.stays crowded) (by simp) fun number handed => ?_
          rcases handed with rfl | same
          · simp [Ledger.closings, Asked.closed?, Asked.call]
          · contradiction

/-! ## What a run comes to -/

/-- What holds of idle calls and of successful and crowded moves holds as long as the directory is
not closed on purpose. -/
theorem Parked.forall {holds : Asked → Prop} (parked : Parked target limit last asked)
    (idle : ∀ one, Idle one → holds one)
    (moved : ∀ fd last, holds ⟨.acquire, ⟨.dup fd (parkingNumber limit), .ok last⟩⟩)
    (stays : ∀ fd errno, errno = .einval ∨ errno = .emfile →
      holds ⟨.acquire, ⟨.dup fd (parkingNumber limit), .error errno⟩⟩) :
    ∀ one ∈ asked, holds one := by
  cases parked with
  | intro opened parks =>
      have before := fun one member => idle one (opened.untouched.idle one member)
      refine List.forall_mem_append.2 ⟨before, ?_⟩
      cases parks with
      | moved => simpa using ⟨moved _ _, idle _ (idle_of_release _ _)⟩
      | stays crowded => simpa using stays _ _ crowded

theorem Parked.unprobed (parked : Parked target limit last asked) {reply : Except Errno Unit} :
    ∀ one ∈ asked ++ [⟨.relinquish, ⟨.close last, reply⟩⟩], one.purpose ≠ .probe := by
  refine List.forall_mem_append.2 ⟨?_, List.forall_mem_singleton.2 nofun⟩
  exact parked.forall (fun _ idle => idle.unprobed) (fun _ _ => nofun) fun _ _ _ => nofun

/-- The part that a call plays in a run. Only a move that is refused for another reason than lack
of room, or a refusal to close, tells the end of it. -/
inductive Part (target : Path) (limit : Except Errno UInt64) (result : Except Interrupt Stage)
    (asked : List Asked) : Asked → Prop
  | aside {one : Asked} (aside : Aside one) : Part target limit result asked one
  | moved {fd last : Descriptor} :
      Part target limit result asked ⟨.acquire, ⟨.dup fd (parkingNumber limit), .ok last⟩⟩
  | stays {fd : Descriptor} {errno : Errno} (crowded : errno = .einval ∨ errno = .emfile) :
      Part target limit result asked ⟨.acquire, ⟨.dup fd (parkingNumber limit), .error errno⟩⟩
  | closed {fd : Descriptor} :
      Part target limit result asked ⟨.relinquish, ⟨.close fd, .ok ()⟩⟩
  | unparked {fd : Descriptor} {errno : Errno} {closed : Except Errno Unit} {before : List Asked}
      (opened : Opened target fd before)
      (failed : result = .error (.fail (.call "fcntl(F_DUPFD_CLOEXEC)" (.os errno))))
      (whole : asked = before ++ [⟨.acquire, ⟨.dup fd (parkingNumber limit), .error errno⟩⟩,
        ⟨.release, ⟨.close fd, closed⟩⟩]) :
      Part target limit result asked ⟨.acquire, ⟨.dup fd (parkingNumber limit), .error errno⟩⟩
  | unclosed {last : Descriptor} {errno : Errno} {before : List Asked}
      (parked : Parked target limit last before)
      (failed : result = .error (.fail (.call "close" (.os errno))))
      (whole : asked = before ++ [⟨.relinquish, ⟨.close last, .error errno⟩⟩]) :
      Part target limit result asked ⟨.relinquish, ⟨.close last, .error errno⟩⟩

theorem Course.part (course : Course target limit result asked) :
    ∀ one ∈ asked, Part target limit result asked one := by
  cases course with
  | idle each => exact fun one member => .aside (each one member).toAside
  | unparked opened =>
      refine List.forall_mem_append.2 ⟨fun one member => ?_, List.forall_mem_cons.2 ⟨?_, ?_⟩⟩
      · exact .aside (opened.untouched.idle one member).toAside
      · exact .unparked opened rfl rfl
      · exact List.forall_mem_singleton.2 (.aside (idle_of_release _ _).toAside)
  | unclosed parked =>
      refine List.forall_mem_append.2 ⟨?_, List.forall_mem_singleton.2 (.unclosed parked rfl rfl)⟩
      exact parked.forall (fun _ idle => .aside idle.toAside) (fun _ _ => .moved) fun _ _ => .stays
  | probed probed =>
      cases probed with
      | intro parked later =>
          refine List.forall_mem_append.2 ⟨List.forall_mem_append.2 ⟨?_, ?_⟩, ?_⟩
          · exact parked.forall (fun _ idle => .aside idle.toAside) (fun _ _ => .moved)
              fun _ _ => .stays
          · exact List.forall_mem_singleton.2 .closed
          · refine List.forall_mem_cons.2 ⟨.aside (aside_of_probe _ _), fun one member => ?_⟩
            exact .aside (later one member)

namespace Part

variable {one : Asked} {number floor : Descriptor} {errno : Errno} {verdict : Except Interrupt Unit}

theorem fits (part : Part target limit result asked one) (moves : one.call = .dup number floor) :
    Fits limit floor := by
  cases part with
  | aside aside => exact absurd moves (aside.unmoved number floor)
  | moved | stays | unparked =>
      cases moves
      exact fits_parkingNumber limit
  | closed | unclosed => cases moves

theorem givesUp_of_refused (part : Part target limit (ending verdict) asked one)
    (refused : one.exchange = ⟨.dup number floor, .error errno⟩)
    (other : ¬ (errno = .einval ∨ errno = .emfile)) :
    GivesUp target "fcntl(F_DUPFD_CLOEXEC)" errno verdict asked := by
  cases part with
  | aside aside => exact absurd (congrArg Exchange.call refused) (aside.unmoved number floor)
  | moved | closed | unclosed => cases refused
  | stays crowded =>
      cases refused
      exact absurd crowded other
  | @unparked _ _ closed _ opened failed whole =>
      cases refused
      have released : (⟨.release, ⟨.close number, closed⟩⟩ : Asked) ∈ asked := by simp [whole]
      refine ⟨ending_injective failed, ?_, number, by simp [whole, opened.opener], _, released, rfl⟩
      rw [whole]
      refine List.forall_mem_append.2 ⟨fun one old => (opened.untouched.idle one old).unprobed, ?_⟩
      exact List.forall_mem_cons.2 ⟨nofun, List.forall_mem_singleton.2 nofun⟩

theorem givesUp_of_unclosed (part : Part target limit (ending verdict) asked one)
    (unclosed : one = ⟨.relinquish, ⟨.close number, .error errno⟩⟩) :
    GivesUp target "close" errno verdict asked := by
  cases part with
  | aside aside => exact absurd (congrArg Asked.purpose unclosed) aside.kept
  | moved | stays | closed | unparked => cases unclosed
  | unclosed parked failed whole =>
      cases unclosed
      refine ⟨ending_injective failed, whole ▸ parked.unprobed, ?_⟩
      rw [whole]
      cases parked with
      | @intro fd _ _ opened parks =>
          refine ⟨fd, by simp [opened.opener], ?_⟩
          cases parks with
          | @moved _ closed => exact ⟨⟨.release, ⟨.close fd, closed⟩⟩, by simp, rfl⟩
          | stays => exact ⟨⟨.relinquish, ⟨.close number, .error errno⟩⟩, by simp, rfl⟩

end Part

/-- The first probe is that of the last number of the directory. -/
theorem Course.of_probe (course : Course target limit result asked) {before after : List Asked}
    {one : Asked} (split : asked = before ++ one :: after) (probes : one.purpose = .probe)
    (first : ∀ earlier ∈ before, earlier.purpose ≠ .probe) :
    ∃ last parked, Parked target limit last parked ∧
      before = parked ++ [⟨.relinquish, ⟨.close last, .ok ()⟩⟩] ∧
      one.call = .getdents64 last bufferLength := by
  have member : one ∈ asked := by simp [split]
  cases course with
  | idle each => exact absurd probes (each one member).unprobed
  | unparked opened =>
      simp only [List.mem_append, List.mem_cons, List.not_mem_nil, or_false] at member
      rcases member with old | rfl | rfl
      · exact absurd probes (opened.untouched.idle one old).unprobed
      · contradiction
      · contradiction
  | unclosed parked => exact absurd probes (parked.unprobed one member)
  | probed probed =>
      cases probed with
      | intro parked =>
          have ⟨same, here⟩ := split_first split parked.unprobed rfl first probes
          exact ⟨_, _, parked, same.symm, by rw [← here]; rfl⟩

/-- No run passes without the probe. -/
theorem Course.exists_probe (course : Course target limit (.ok next) asked) :
    ∃ one ∈ asked, one.purpose = .probe := by
  cases course with
  | probed probed =>
      cases probed with
      | @intro last reply =>
          exact ⟨⟨.probe, ⟨.getdents64 last bufferLength, reply⟩⟩, by simp, rfl⟩

/-- Over every script and under every limit on open files the directory is moved to a number that
the limit leaves room for, and no run passes without a probe. The first probe, which is the one that
the directory is closed for, reads from the number that the call before it closed, when each number
that was handed out has been closed once. Where the directory cannot be moved, but for lack of room,
or cannot be closed, there is no probe. -/
theorem closed_when_probed (target : Path) (entry : String) (limit : Except Errno UInt64)
    (script : Script) :
    let ran := (run target entry limit).exec script
    let asked := Trace.asked ran.record
    (∀ one ∈ asked, ∀ fd floor, one.call = .dup fd floor → Fits limit floor) ∧
      (ran.value = .ok () → ∃ one ∈ asked, one.purpose = .probe) ∧
      (∀ before probe after, asked = before ++ probe :: after → probe.purpose = .probe →
        (∀ one ∈ before, one.purpose ≠ .probe) →
        ∃ last, probe.call = .getdents64 last bufferLength ∧ Relinquished target last before) ∧
      (∀ one ∈ asked, ∀ fd floor errno, one.exchange = ⟨.dup fd floor, .error errno⟩ →
        ¬ (errno = .einval ∨ errno = .emfile) →
        GivesUp target "fcntl(F_DUPFD_CLOEXEC)" errno ran.value asked) ∧
      ∀ fd errno, ⟨.relinquish, ⟨.close fd, .error errno⟩⟩ ∈ asked →
        GivesUp target "close" errno ran.value asked := by
  intro ran asked
  have course : Course target limit (ending ran.value) asked := course_run target entry limit script
  have keeps : (run (σ := Script) target entry limit).Keeps true [] := keeps_run target entry limit
  have served : Served script asked ran.state := (keeps {} (by simp)).served script
  refine ⟨fun one member fd floor => (course.part one member).fits, ?_, ?_, ?_, ?_⟩
  · intro passed
    rw [passed] at course
    exact course.exists_probe
  · intro before probe after split probes first
    have ⟨last, parked, stood, same, call⟩ := course.of_probe split probes first
    refine ⟨last, call, same ▸ stood.relinquished fun number => ?_⟩
    have once := served.openings_le number
    rw [split, same] at once
    simp only [Ledger.openings, List.countP_append] at once ⊢
    omega
  · intro one member fd floor errno refused other
    exact (course.part one member).givesUp_of_refused refused other
  · intro fd errno member
    exact (course.part _ member).givesUp_of_unclosed rfl

/-- Where the directory has to stay it is closed, and probed, under the number that it was opened
with. -/
theorem crowded_directory_relinquished :
    let file : Bytes := List.replicate 16 0 ++ [21, 0, 8, 102, 0]
    let script : Script := ⟨[.grant {}, .grant {}, .grant { data := file }, .grant {},
      .refuse .emfile, .grant {}, .refuse .ebadf], 3⟩
    let asked := Trace.asked ((run "/d" "f" (.ok 200)).exec script).record
    ∃ before probe after, asked = before ++ probe :: after ∧
      probe.call = .getdents64 3 bufferLength ∧ Relinquished "/d" 3 before := by
  intro file script asked
  have calls : (asked.map fun one => (one.purpose, one.call)) =
      [(.presence, .lstat "/d/f"), (.acquire, .openFile "/d" directoryFlags),
        (.listing, .getdents64 3 bufferLength), (.listing, .getdents64 3 bufferLength),
        (.acquire, .dup 3 199), (.relinquish, .close 3)] ++
      (.probe, .getdents64 3 bufferLength) ::
        [(.acquire, .openFile "/d/f" fileFlags), (.probe, .getdents64 4 bufferLength),
          (.release, .close 4)] := by decide +kernel
  have ⟨before, rest, split, front, back⟩ := List.map_eq_append_iff.1 calls
  have ⟨probe, after, same, probes, _⟩ := List.map_eq_cons_iff.1 back
  have ⟨purpose, call⟩ := Prod.mk.inj probes
  have first : ∀ one ∈ before, one.purpose ≠ .probe := by
    intro one member
    have early := List.mem_map_of_mem (f := fun one => (one.purpose, one.call)) member
    rw [front] at early
    intro probing
    simp [probing] at early
  have ⟨_, _, found, _, _⟩ := closed_when_probed "/d" "f" (.ok 200) script
  have ⟨last, reads, relinquished⟩ := found before probe after (same ▸ split) purpose first
  cases reads.symm.trans call
  exact ⟨before, probe, after, same ▸ split, call, relinquished⟩

end CopyUp.Scenario.Enumeration
