import CopyUp.Kernel.Script
import CopyUp.Proofs.Staging

/-!
# Verdicts of the listing check

Which calls and answers make the check pass, which make it skip, and which failure all others stand
for: each verdict is given exactly on the calls that call for it.
-/

namespace CopyUp.Scenario.Enumeration

open Directory

/-! ## Passing -/

/-- What there is to see in the calls of a run that passes: the entry is there, the directory opens
and is drained, the first entry of the name is a regular file, the directory is closed under its own
number or the one that it was parked at, and both ways to read what is no open directory fail. -/
inductive Conforms (target : Path) (entry : String) (limit : Except Errno UInt64) :
    List Asked → Prop
  | intro (metadata : Metadata) (closed : Except Errno Unit) {fd last file : Descriptor}
      {entries : List Entry} {found : Entry} {opening draining parking reopening : List Asked}
      (opens : Answered .acquire (.openFile target directoryFlags) (.ok fd) opening)
      (drains : Drained fd (.ok entries) draining) (first : FirstNamed entry entries found)
      (regular : found.kind = .regular)
      (parks : Leaves target entry limit (.parking fd) (.ok (.closing last)) parking)
      (reopens : Answered .acquire (.openFile (target.join entry) fileFlags) (.ok file) reopening) :
      Conforms target entry limit
        (⟨.presence, ⟨.lstat (target.join entry), .ok metadata⟩⟩ ::
          (opening ++ draining ++ parking ++
            [⟨.relinquish, ⟨.close last, .ok ()⟩⟩,
              ⟨.probe, ⟨.getdents64 last bufferLength, .error .ebadf⟩⟩] ++
            reopening ++
            [⟨.probe, ⟨.getdents64 file bufferLength, .error .enotdir⟩⟩,
              ⟨.release, ⟨.close file, closed⟩⟩]))

variable {target : Path} {entry : String} {limit : Except Errno UInt64} {stage next : Stage}
  {result : Except Interrupt Stage} {asked more : List Asked}

namespace Leaves

theorem of_presence (leaves : Leaves target entry limit .presence (.ok next) asked) :
    next = .opening ∧
      ∃ metadata, asked = [⟨.presence, ⟨.lstat (target.join entry), .ok metadata⟩⟩] := by
  cases leaves with
  | intro asks exits silent =>
      cases exits
      cases silent
      exact ⟨rfl, _, by rw [List.append_nil, asks.eq_of_not_restarts Bool.false_ne_true]⟩

theorem of_opening (leaves : Leaves target entry limit .opening (.ok next) asked) :
    ∃ fd, next = .listing fd ∧
      Answered .acquire (.openFile target directoryFlags) (.ok fd) asked := by
  cases leaves with
  | intro asks exits silent =>
      cases exits
      cases silent
      exact ⟨_, rfl, by rwa [List.append_nil]⟩

theorem of_listing {fd : Descriptor}
    (leaves : Leaves target entry limit (.listing fd) (.ok next) asked) :
    next = .parking fd ∧ ∃ entries found, Drained fd (.ok entries) asked ∧
      FirstNamed entry entries found ∧ found.kind = .regular := by
  cases leaves with
  | intro asks exits silent =>
      cases exits with
      | listed first regular =>
          cases silent
          exact ⟨rfl, _, _, by rwa [List.append_nil], first, regular⟩

theorem of_parking {fd : Descriptor}
    (leaves : Leaves target entry limit (.parking fd) (.ok next) asked) :
    ∃ last, next = .closing last := by
  cases leaves with
  | intro _ exits => cases exits <;> exact ⟨_, rfl⟩

theorem of_closing {fd : Descriptor}
    (leaves : Leaves target entry limit (.closing fd) (.ok next) asked) :
    next = .probing fd ∧ asked = [⟨.relinquish, ⟨.close fd, .ok ()⟩⟩] := by
  cases leaves with
  | intro asks exits silent =>
      cases exits
      cases silent
      exact ⟨rfl, by rw [List.append_nil, asks.eq_of_not_restarts Bool.false_ne_true]⟩

theorem of_probing {fd : Descriptor}
    (leaves : Leaves target entry limit (.probing fd) (.ok next) asked) :
    next = .reopening ∧ asked = [⟨.probe, ⟨.getdents64 fd bufferLength, .error .ebadf⟩⟩] := by
  cases leaves with
  | intro asks exits silent =>
      cases exits
      cases silent
      exact ⟨rfl, by rw [List.append_nil, asks.eq_of_not_restarts Bool.false_ne_true]⟩

theorem of_reopening (leaves : Leaves target entry limit .reopening (.ok next) asked) :
    ∃ fd, next = .reading fd ∧
      Answered .acquire (.openFile (target.join entry) fileFlags) (.ok fd) asked := by
  cases leaves with
  | intro asks exits silent =>
      cases exits
      cases silent
      exact ⟨_, rfl, by rwa [List.append_nil]⟩

theorem of_reading {fd : Descriptor}
    (leaves : Leaves target entry limit (.reading fd) (.ok next) asked) :
    next = .passed ∧ ∃ closed, asked =
      [⟨.probe, ⟨.getdents64 fd bufferLength, .error .enotdir⟩⟩,
        ⟨.release, ⟨.close fd, closed⟩⟩] := by
  cases leaves with
  | intro asks exits releases =>
      cases exits
      cases releases
      exact ⟨rfl, _, by rw [asks.eq_of_not_restarts Bool.false_ne_true]; rfl⟩

end Leaves

theorem Runs.exists_step (runs : Runs target entry limit stage (.ok .passed) asked)
    (further : stage ≠ .passed) : ∃ next first rest,
      Leaves target entry limit stage (.ok next) first ∧
        Runs target entry limit next (.ok .passed) rest ∧ asked = first ++ rest := by
  cases runs with
  | rests => exact absurd rfl further
  | goes leaves later => exact ⟨_, _, _, leaves, later, rfl⟩

theorem Runs.nil_of_passed (runs : Runs target entry limit .passed (.ok .passed) asked) :
    asked = [] := by
  cases runs with
  | rests => rfl
  | goes leaves => exact absurd leaves not_leaves_passed

theorem conforms_of_runs (runs : Runs target entry limit .presence (.ok .passed) asked) :
    Conforms target entry limit asked := by
  have ⟨_, _, _, leaves, runs, whole⟩ := runs.exists_step nofun
  have ⟨same, metadata, present⟩ := leaves.of_presence
  cases same
  have ⟨_, _, _, leaves, runs, opened⟩ := runs.exists_step nofun
  have ⟨fd, same, opens⟩ := leaves.of_opening
  cases same
  have ⟨_, _, _, leaves, runs, listed⟩ := runs.exists_step nofun
  have ⟨same, entries, found, drains, first, regular⟩ := leaves.of_listing
  cases same
  have ⟨_, _, _, parks, runs, parked⟩ := runs.exists_step nofun
  have ⟨last, same⟩ := parks.of_parking
  cases same
  have ⟨_, _, _, leaves, runs, closes⟩ := runs.exists_step nofun
  have ⟨same, relinquished⟩ := leaves.of_closing
  cases same
  have ⟨_, _, _, leaves, runs, probes⟩ := runs.exists_step nofun
  have ⟨same, refused⟩ := leaves.of_probing
  cases same
  have ⟨_, _, _, leaves, runs, reopened⟩ := runs.exists_step nofun
  have ⟨file, same, reopens⟩ := leaves.of_reopening
  cases same
  have ⟨_, _, _, leaves, runs, reads⟩ := runs.exists_step nofun
  have ⟨same, closed, refusedFile⟩ := leaves.of_reading
  cases same
  have conforms := Conforms.intro metadata closed opens drains first regular parks reopens
  rw [whole, present, opened, listed, parked, closes, relinquished, probes, refused, reopened,
    reads, refusedFile, runs.nil_of_passed]
  simpa using conforms

theorem Conforms.runs (conforms : Conforms target entry limit asked) :
    Runs target entry limit .presence (.ok .passed) asked := by
  cases conforms with
  | @intro metadata closed fd last file _ _ _ _ _ _ opens drains first regular parks reopens =>
      have present : Runs target entry limit .presence (.ok .opening) _ :=
        Exits.present.runs_silently
          (answered_once .presence (.lstat (target.join entry)) Bool.false_ne_true (.ok metadata))
      have opened : Runs target entry limit .opening (.ok (.listing fd)) _ :=
        Exits.opened.runs_silently opens
      have listed : Runs target entry limit (.listing fd) (.ok (.parking fd)) _ :=
        (Exits.listed first regular).runs_silently drains
      have closes : Runs target entry limit (.closing last) (.ok (.probing last)) _ :=
        Exits.closed.runs_silently
          (answered_once .relinquish (.close last) Bool.false_ne_true (.ok ()))
      have probed : Runs target entry limit (.probing last) (.ok .reopening) _ :=
        Exits.refused.runs_silently
          (answered_once .probe (.getdents64 last bufferLength) Bool.false_ne_true (.error .ebadf))
      have reopened : Runs target entry limit .reopening (.ok (.reading file)) _ :=
        Exits.reopened.runs_silently reopens
      have released : Released (some file) [⟨.release, ⟨.close file, closed⟩⟩] := .some
      have refused : Runs target entry limit (.reading file) (.ok .passed) _ :=
        Exits.refusedFile.runs (answered_once .probe (.getdents64 file bufferLength)
          Bool.false_ne_true (.error .enotdir)) released
      have whole := present.trans (opened.trans (listed.trans (parks.runs.trans
        (closes.trans (probed.trans (reopened.trans refused))))))
      simpa using whole

/-! ## Skips -/

section

variable (target entry)

def absence : Asked := ⟨.presence, ⟨.lstat (target.join entry), .error .enoent⟩⟩

end

theorem leaves_absence : Leaves target entry limit .presence
    (.error (.skip (.entryMissing entry target))) [absence target entry] := by
  have asks := answered_once .presence (.lstat (target.join entry)) Bool.false_ne_true
    (.error .enoent)
  exact (Leaves.intro asks .missing .none : Leaves target entry limit .presence _ _)

/-- A run that starts with this answer is over, and skipped. -/
theorem Runs.of_absence (runs : Runs target entry limit .presence result asked)
    (ended : Ended result) (first : asked.head? = some (absence target entry)) :
    result = .error (.skip (.entryMissing entry target)) ∧ asked = [absence target entry] := by
  have ⟨rest, split⟩ := List.head?_eq_some_iff.1 first
  cases runs with
  | rests => contradiction
  | ends leaves =>
      have same := (List.append_nil _).trans split
      exact Leaves.selfDelimiting _ leaves leaves_absence same
  | goes leaves => cases (Leaves.selfDelimiting _ leaves leaves_absence split).1

/-- Only the first stage skips, and none leads back to it. -/
theorem not_runs_skip {reason : SkipReason} (further : stage ≠ .presence) :
    ¬ Runs target entry limit stage (.error (.skip reason)) asked := by
  intro runs
  generalize same : (Except.error (.skip reason) : Except Interrupt Stage) = result at runs
  induction runs with
  | rests => contradiction
  | ends leaves =>
      cases same
      cases leaves with
      | intro _ exits =>
          cases exits
          exact further rfl
  | goes leaves _ ih =>
      refine ih ?_ same
      cases leaves with
      | intro _ exits => cases exits <;> exact nofun

theorem Runs.of_skip {reason : SkipReason}
    (runs : Runs target entry limit .presence (.error (.skip reason)) asked) :
    asked = [absence target entry] := by
  cases runs with
  | ends leaves =>
      cases leaves with
      | intro asks exits silent =>
          cases exits
          cases silent
          rw [List.append_nil, asks.eq_of_not_restarts Bool.false_ne_true]
          rfl
  | goes leaves later =>
      have ⟨same, _⟩ := leaves.of_presence
      cases same
      exact absurd later (not_runs_skip nofun)

/-! ## The exact verdict -/

theorem ended_ending (verdict : Except Interrupt Unit) : Ended (ending verdict) := by
  intro next same
  cases verdict with
  | ok => cases same; rfl
  | error => contradiction

theorem ending_injective {first second : Except Interrupt Unit}
    (same : ending first = ending second) : first = second := by
  cases first <;> cases second <;> cases same <;> rfl

/-- The check is skipped exactly if its first call finds no entry, and is over then; it passes
exactly if its calls conform; and it fails exactly with what the first stage that is left in
another way calls for. -/
theorem run_verdict {σ : Type} [Kernel σ] (clean : ¬ target.HasNul) (named : ¬ Path.HasNul entry)
    (limit : Except Errno UInt64) (kernel : σ) :
    let ran := (run target entry limit).exec kernel
    let asked := Trace.asked ran.record
    ((∃ reason, ran.value = .error (.skip reason)) ↔
        asked.head? = some (absence target entry)) ∧
      (asked.head? = some (absence target entry) →
        ran.value = .error (.skip (.entryMissing entry target)) ∧
          asked = [absence target entry]) ∧
      (ran.value = .ok () ↔ Conforms target entry limit asked) ∧
      ∀ failure, ran.value = .error (.fail failure) ↔
        Runs target entry limit .presence (.error (.fail failure)) asked := by
  intro ran asked
  have runs : Runs target entry limit .presence (ending ran.value) asked :=
    (ensures_run clean named).post kernel
  have tells : ∀ verdict, ran.value = verdict ↔
      Runs target entry limit .presence (ending verdict) asked := by
    intro verdict
    constructor
    · intro same
      rwa [same] at runs
    · intro other
      exact ending_injective (runs.unique (ended_ending _) other (ended_ending _))
  have skips : asked.head? = some (absence target entry) →
      ran.value = .error (.skip (.entryMissing entry target)) ∧ asked = [absence target entry] := by
    intro first
    have ⟨skipped, once⟩ := runs.of_absence (ended_ending _) first
    exact ⟨ending_injective skipped, once⟩
  refine ⟨⟨?_, fun first => ⟨_, (skips first).1⟩⟩, skips, ?_, fun failure => tells _⟩
  · intro skipped
    have ⟨reason, same⟩ := skipped
    rw [((tells _).1 same : Runs ..).of_skip]
    rfl
  · exact (tells _).trans ⟨conforms_of_runs, Conforms.runs⟩

/-- A directory of the name is listed before a regular file of the same name. -/
theorem directory_listed_first_fails :
    let directory : Bytes := List.replicate 16 0 ++ [21, 0, 4, 102, 0]
    let file : Bytes := List.replicate 16 0 ++ [21, 0, 8, 102, 0]
    let script : Script := ⟨[.grant {}, .grant {}, .grant { data := directory ++ file }], 3⟩
    let ran := (run "/d" "f" (.ok 1024)).exec script
    let failure := Failure.wrongEntryKind "f" .regular .directory
    ¬ Path.HasNul "/d" ∧ ¬ Path.HasNul "f" ∧ ran.value = .error (.fail failure) ∧
      Runs "/d" "f" (.ok 1024) .presence (.error (.fail failure)) (Trace.asked ran.record) := by
  intro directory file script ran failure
  have clean : ¬ Path.HasNul "/d" := by decide
  have named : ¬ Path.HasNul "f" := by decide
  have failed : ran.value = .error (.fail failure) := by decide +kernel
  have ⟨_, _, _, tells⟩ := run_verdict clean named (.ok 1024) script
  exact ⟨clean, named, failed, (tells failure).1 failed⟩

end CopyUp.Scenario.Enumeration
