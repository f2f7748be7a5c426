import CopyUp.Command.Execute
import CopyUp.Kernel.Script
import CopyUp.Proofs.Composition
import CopyUp.Proofs.Sites
import CopyUp.Proofs.Turns

/-!
# The exit status of a run

A run finds its directories before anything else. Without them it ends at once with status one and
prints nothing; with them its calls are those of the scenarios that got their turn, and its status
is zero exactly if none of these failed.
-/

namespace CopyUp

namespace Console

/-- What happens between notices shows on no stream. -/
theorem follow_map_event (console : Console) (trace : Trace) :
    (console.follow (trace.map .event)).1 = console := by
  induction trace with
  | nil => rfl
  | cons event rest ih => cases event <;> exact ih

end Console

theorem Trace.calls_eq_map_asked (trace : Trace) : trace.calls = trace.asked.map Asked.call := by
  rw [calls, ← map_exchange_asked, List.map_map]
  rfl

theorem Outcome.not_isFailed_of_isSkipped {outcome : Outcome} (skipped : outcome.isSkipped) :
    ¬ outcome.isFailed := by
  cases outcome with
  | skipped => exact Bool.false_ne_true
  | passed | failed => contradiction

namespace Command

open Suite (Turn turns catalog)
open Site (Prepared)

def callsOf {σ : Type} (ran : Ran Progress σ Ending) : List Call :=
  (Progress.trace ran.record).calls

structure NotBegun {σ : Type} (setup : List Asked) (ran : Ran Progress σ Ending) : Prop where
  calls : callsOf ran = setup.map Asked.call
  shown : (Console.follow {} ran.record).1.out.held = []
  printed : ran.value.out = ""
  exit : ran.value.exitCode = 1

/-- What the outside sees of a run that found its directories: these turns were taken, and those
behind them were not. -/
structure Took {σ : Type} (setup : List Asked) (done left : List (Turn σ))
    (ran : Ran Progress σ Ending) : Prop where
  /-- No turn but the last failed. -/
  goesOn : ∀ turn ∈ done.dropLast, ¬ turn.outcome.isFailed
  /-- Only a failure keeps the others from their turns. -/
  stops : left ≠ [] → ∃ last ∈ done.getLast?, last.outcome.isFailed
  calls : callsOf ran = setup.map Asked.call ++ done.flatMap (·.trace.calls)
  exit : ran.value.exitCode = 0 ↔ ∀ turn ∈ done, ¬ turn.outcome.isFailed
  failure : ran.value.exitCode = 0 ∨ ran.value.exitCode = 1
  skipped : (∀ turn ∈ done ++ left, turn.outcome.isSkipped) → ran.value.exitCode = 0

variable {σ : Type} [Kernel σ]

/-- A run is over if there is no site, else it is what the suite makes of the site. -/
theorem run_serveRun (host : Host) (plan : Plan) (kernel : σ) :
    (serveRun host plan).run kernel =
      match (Site.prepare host plan).exec kernel with
      | ⟨.error error, after, trace⟩ =>
        let context := s!"cannot use {plan.base} as the directory under test"
        ⟨{ exitCode := 1, problem := some ⟨context, error⟩ }, after, trace.map .event⟩
      | ⟨.ok site, after, trace⟩ =>
        let ran := (Suite.mk site (catalog plan)).run.run after
        ⟨{ exitCode := ran.value.exitCode }, ran.state, trace.map .event ++ ran.record⟩ := by
  unfold serveRun
  rw [Suite.standard_eq, Recorded.mapRecord_map_bind, Recorded.run_bind, Recorded.run_mapRecord]
  unfold Attempt.exec
  cases (Site.prepare host plan).run.run kernel with
  | mk value after trace =>
      cases value with
      | error error =>
          show Ran.mk _ _ (_ ++ []) = _
          rw [List.append_nil]
          rfl
      | ok site =>
          show Ran.mk _ _ (_ ++ (_ ++ [])) = _
          rw [List.append_nil]
          rfl

omit [Kernel σ] in
theorem notBegun {after : σ} {trace : Trace} {problem : Problem} :
    NotBegun trace.asked
      ⟨{ exitCode := 1, problem := some problem }, after, trace.map .event⟩ := by
  refine ⟨?_, ?_, rfl, rfl⟩
  · show (Progress.trace (trace.map .event)).calls = trace.asked.map Asked.call
    rw [Progress.trace_map_event, Trace.calls_eq_map_asked]
  · show (Console.follow {} (trace.map .event)).1.out.held = []
    rw [Console.follow_map_event]

theorem exists_took {site : Site} {plan : Plan} {ready : σ} {trace : Trace} :
    let ran := (Suite.mk site (catalog plan)).run.run ready
    ∃ done left, turns site (catalog plan) ready = done ++ left ∧
      Took trace.asked done left
        ⟨{ exitCode := ran.value.exitCode }, ran.state, trace.map .event ++ ran.record⟩ := by
  intro ran
  have ⟨left, drives⟩ := Suite.drives_run (Suite.mk site (catalog plan)) ready
  generalize Suite.throughFailure (turns _ _ _) = done at drives
  have exit : ran.value.exitCode = 0 ↔ ∀ turn ∈ done, ¬ turn.outcome.isFailed := by
    rw [Report.exitCode_eq_zero_iff, Report.success_iff, drives.results]
    exact List.forall_mem_map
  refine ⟨done, left, drives.split, drives.goesOn, drives.stops, ?_, exit, ?_, ?_⟩
  · show (Progress.trace (trace.map .event ++ ran.record)).calls = _
    rw [Progress.trace_append, Progress.trace_map_event, Trace.calls_append,
      Trace.calls_eq_map_asked, Trace.calls, drives.exchanges, List.map_flatMap]
    rfl
  · show ran.value.exitCode = 0 ∨ ran.value.exitCode = 1
    unfold Report.exitCode
    split
    · exact .inl rfl
    · exact .inr rfl
  · intro skipped
    apply exit.2
    intro turn member
    exact Outcome.not_isFailed_of_isSkipped (skipped turn (List.mem_append_left left member))

/-- The base is put into canonical form first and then the directory to list, if it is given. If
either fails, nothing else is asked, nothing is printed and the status is one. Else the scenarios
take their turns in the canonical directories, and the status is zero exactly if none of those that
got their turn failed. -/
theorem run_status (host : Host) (plan : Plan) (kernel : σ) :
    let ran := (serveRun host plan).run kernel
    ∃ prepared setup ready, Prepared plan prepared setup ∧ Served kernel setup ready ∧
      (∀ error, prepared = .error error → NotBegun setup ran) ∧
      ∀ found, prepared = .ok found → ∃ done left,
        turns (host.site found) (catalog plan) ready = done ++ left ∧
          Took setup done left ran := by
  intro ran
  have ⟨prepared, comes, same⟩ := (Site.ensures_prepare host plan).post kernel
  have served := (Site.ensures_prepare host plan).served kernel
  have whole : ran = _ := run_serveRun host plan kernel
  cases prepares : (Site.prepare host plan).exec kernel with
  | mk value ready trace =>
      rw [prepares] at comes same served whole
      refine ⟨prepared, _, _, comes, served, ?_, ?_⟩
      · intro error failed
        rw [failed] at same
        cases same
        rw [whole]
        exact notBegun
      · intro found succeeded
        rw [succeeded] at same
        cases same
        rw [whole]
        exact exists_took

/-- The base is not there. -/
theorem missing_base_status :
    let plan : Plan := { base := "/lower" }
    let kernel : Script := ⟨[.refuse .enoent], 3⟩
    let ran := (serveRun {} plan).run kernel
    ran.value.exitCode = 1 ∧ callsOf ran = [.realpath "/lower"] ∧
      ∃ prepared setup ready, Prepared plan prepared setup ∧ Served kernel setup ready ∧
        (∀ error, prepared = .error error → NotBegun setup ran) ∧
        ∀ found, prepared = .ok found → ∃ done left,
          turns (Host.site {} found) (catalog plan) ready = done ++ left ∧
            Took setup done left ran :=
  ⟨rfl, rfl, run_status {} _ _⟩

end Command

end CopyUp
