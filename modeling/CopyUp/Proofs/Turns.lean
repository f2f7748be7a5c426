import CopyUp.Suite.Run
import Mathlib.Data.List.Basic

/-!
# Turns of a suite

If nothing stopped a suite then every scenario would get its turn. A run takes these turns up to
and including the first that fails, whatever the scenarios do: what it reports, what it tells of
and what it asks of the kernel are those of its turns, one behind the other.
-/

namespace CopyUp

/-! ## Counts and failures of a report -/

namespace Report

variable (report : Report)

theorem passed_add_skipped_add_failed :
    report.passed + report.skipped + report.failed = report.results.length := by
  unfold passed skipped failed
  induction report.results with
  | nil => rfl
  | cons result results ih =>
      have one : (if result.2.isPassed then 1 else 0) + (if result.2.isSkipped then 1 else 0) +
          (if result.2.isFailed then 1 else 0) = 1 := by
        cases result.2 <;> rfl
      simp only [List.countP_cons, List.length_cons]
      omega

theorem success_iff : report.success ↔ ∀ result ∈ report.results, ¬ result.2.isFailed := by
  unfold success failure?
  rw [Option.isNone_iff_eq_none, List.findSome?_eq_none_iff]
  apply forall₂_congr
  intro result _
  obtain ⟨name, outcome⟩ := result
  cases outcome <;> simp [Outcome.isFailed]

theorem exitCode_eq_zero_iff : report.exitCode = 0 ↔ report.success := by
  unfold exitCode
  cases report.success <;> decide

theorem outcome?_eq (name : String) :
    report.outcome? name = (report.results.find? (·.1 = name)).map Prod.snd := by
  unfold outcome?
  induction report.results with
  | nil => rfl
  | cons result results ih =>
      obtain ⟨label, outcome⟩ := result
      rw [List.lookup_cons, List.find?_cons, ih]
      by_cases same : label = name
      · simp [same]
      · have other : (name == label) = false := beq_eq_false_iff_ne.2 (Ne.symm same)
        simp [same, other]

variable {report}

theorem failed_le_one (early : ∀ result ∈ report.results.dropLast, ¬ result.2.isFailed) :
    report.failed ≤ 1 := by
  unfold failed
  cases last : report.results.getLast? with
  | none =>
      rw [List.getLast?_eq_none_iff.1 last]
      decide
  | some result =>
      have before : report.results.dropLast.countP (·.2.isFailed) = 0 :=
        List.countP_eq_zero.2 early
      rw [← List.dropLast_append_getLast? result last, List.countP_append, before, Nat.zero_add]
      exact List.countP_le_length

/-- If only the last check can have failed then the failure is its own. -/
theorem failure?_eq_some_iff (early : ∀ result ∈ report.results.dropLast, ¬ result.2.isFailed)
    {name : String} {failure : Failure} :
    report.failure? = some (name, failure) ↔
      report.results.getLast? = some (name, .failed failure) := by
  cases last : report.results.getLast? with
  | none =>
      unfold failure?
      rw [List.getLast?_eq_none_iff.1 last]
      exact iff_of_false nofun nofun
  | some result =>
      have before := (success_iff ⟨report.planned, report.results.dropLast⟩).2 early
      unfold success failure? at before
      unfold failure?
      rw [← List.dropLast_append_getLast? result last, List.findSome?_append,
        Option.isNone_iff_eq_none.1 before]
      obtain ⟨label, outcome⟩ := result
      cases outcome <;> simp

structure Agrees (report : Report) : Prop where
  counts : report.passed + report.skipped + report.failed = report.results.length
  complete : report.results.length + report.notRun = report.planned
  single : report.failed ≤ 1
  early : ∀ result ∈ report.results.dropLast, ¬ result.2.isFailed
  unrun : 0 < report.notRun → report.failed = 1
  failure : ∀ name failure, report.failure? = some (name, failure) ↔
    report.results.getLast? = some (name, .failed failure)
  success : report.success ↔ ∀ result ∈ report.results, ¬ result.2.isFailed
  exit : report.exitCode = 0 ↔ ∀ result ∈ report.results, ¬ result.2.isFailed
  outcome : ∀ name, report.outcome? name =
    (report.results.find? (·.1 = name)).map Prod.snd

theorem agrees (early : ∀ result ∈ report.results.dropLast, ¬ result.2.isFailed)
    (within : report.results.length ≤ report.planned)
    (stopped : report.results.length < report.planned →
      ∃ result ∈ report.results.getLast?, result.2.isFailed) : report.Agrees where
  counts := report.passed_add_skipped_add_failed
  complete := Nat.add_sub_of_le within
  single := failed_le_one early
  early := early
  unrun := by
    intro left
    have ⟨result, last, failed⟩ := stopped (Nat.lt_of_sub_pos left)
    have some : 0 < report.failed :=
      List.countP_pos_iff.2 ⟨result, List.mem_of_getLast? last, failed⟩
    exact Nat.le_antisymm (failed_le_one early) some
  failure := fun _ _ => failure?_eq_some_iff early
  success := report.success_iff
  exit := report.exitCode_eq_zero_iff.trans report.success_iff
  outcome := report.outcome?_eq

end Report

namespace Suite

variable {σ : Type}

/-! ## Turns -/

structure Turn (σ : Type) where
  name : String
  outcome : Outcome
  state : σ
  trace : Trace

namespace Turn

def result (turn : Turn σ) : String × Outcome := (turn.name, turn.outcome)

def notices (turn : Turn σ) : List Notice :=
  [.started turn.name, .finished turn.name turn.outcome]

def progress (turn : Turn σ) : List Progress :=
  .notice (.started turn.name) :: turn.trace.map .event ++
    [.event (.log ⟨outcomeSeverity turn.outcome, s!"{turn.name}: {turn.outcome.text}"⟩),
      .notice (.finished turn.name turn.outcome)]

@[simp] theorem notices_progress (turn : Turn σ) :
    Progress.notices turn.progress = turn.notices := by
  unfold progress
  rw [Progress.notices_append, ← List.singleton_append, Progress.notices_append,
    Progress.notices_map_event]
  rfl

@[simp] theorem exchanges_progress (turn : Turn σ) :
    (Progress.trace turn.progress).exchanges = turn.trace.exchanges := by
  unfold progress
  rw [Progress.trace_append, ← List.singleton_append, Progress.trace_append,
    Progress.trace_map_event, Trace.exchanges_append, Trace.exchanges_append]
  exact List.append_nil _

end Turn

/-- The turn of a scenario that finds the kernel in this state. -/
def turn (site : Site) (scenario : Scenario σ) (kernel : σ) : Turn σ :=
  let ran := (scenario.run site).exec kernel
  ⟨scenario.name, .ofResult ran.value, ran.state, ran.record⟩

/-- The turns of all scenarios. Each finds what the one before it left behind. -/
def turns (site : Site) : List (Scenario σ) → σ → List (Turn σ)
  | [], _ => []
  | scenario :: rest, kernel =>
    let first := turn site scenario kernel
    first :: turns site rest first.state

theorem length_turns (site : Site) (scenarios : List (Scenario σ)) (kernel : σ) :
    (turns site scenarios kernel).length = scenarios.length := by
  induction scenarios generalizing kernel with
  | nil => rfl
  | cons scenario rest ih => exact congrArg (· + 1) (ih _)

/-- The turns up to and including the first that fails. -/
def throughFailure : List (Turn σ) → List (Turn σ)
  | [] => []
  | turn :: rest => if turn.outcome.isFailed then [turn] else turn :: throughFailure rest

theorem not_isFailed_of_mem_dropLast (turns : List (Turn σ)) :
    ∀ turn ∈ (throughFailure turns).dropLast, ¬ turn.outcome.isFailed := by
  induction turns with
  | nil => exact nofun
  | cons first rest ih =>
      intro turn member
      unfold throughFailure at member
      by_cases failed : first.outcome.isFailed
      · rw [if_pos failed] at member
        contradiction
      rw [if_neg failed] at member
      by_cases last : throughFailure rest = []
      · rw [last] at member
        contradiction
      rw [List.dropLast_cons_of_ne_nil last] at member
      cases member with
      | head => exact failed
      | tail _ later => exact ih turn later

/-- Turns are left over only behind one that failed. -/
theorem exists_throughFailure_append (turns : List (Turn σ)) :
    ∃ rest, turns = throughFailure turns ++ rest ∧
      (rest ≠ [] → ∃ last ∈ (throughFailure turns).getLast?, last.outcome.isFailed) := by
  induction turns with
  | nil => exact ⟨[], rfl, fun more => absurd rfl more⟩
  | cons first rest ih =>
      unfold throughFailure
      by_cases failed : first.outcome.isFailed
      · rw [if_pos failed]
        exact ⟨rest, rfl, fun _ => ⟨first, rfl, failed⟩⟩
      rw [if_neg failed]
      have ⟨left, same, stopped⟩ := ih
      refine ⟨left, congrArg (first :: ·) same, fun more => ?_⟩
      have ⟨last, member, itself⟩ := stopped more
      exact ⟨last, List.mem_getLast?_cons member, itself⟩

/-! ## Runs take turns -/

/-- What is logged when a failure stops the run. -/
def farewell (planned : Nat) (done : List (Turn σ)) : List Progress :=
  match done.getLast? with
  | none => []
  | some last =>
    if last.outcome.isFailed then
      [.event (.log ⟨.warn,
        s!"stopping after {last.name}; {planned - done.length} scenarios not run"⟩)]
    else []

def stateAfter (kernel : σ) (done : List (Turn σ)) : σ :=
  (done.getLast?.map Turn.state).getD kernel

theorem stateAfter_cons (kernel : σ) (first : Turn σ) (later : List (Turn σ)) :
    stateAfter kernel (first :: later) = stateAfter first.state later := by
  unfold stateAfter
  rw [List.getLast?_cons]
  cases later.getLast? <;> rfl

theorem farewell_cons {first : Turn σ} (goes : ¬ first.outcome.isFailed) (planned : Nat)
    (later : List (Turn σ)) :
    farewell (planned + 1) (first :: later) = farewell planned later := by
  unfold farewell
  rw [List.getLast?_cons, List.length_cons, Nat.add_sub_add_right]
  cases later.getLast? with
  | none => exact if_neg goes
  | some last => rfl

theorem run_runScenario (site : Site) (scenario : Scenario σ) (kernel : σ) :
    let taken := turn site scenario kernel
    (runScenario site scenario).run kernel = ⟨taken.outcome, taken.state, taken.progress⟩ := by
  unfold runScenario
  simp only [Recorded.run_bind, notify, log, Recorded.run_tell, Recorded.run_mapRecord,
    Recorded.run_pure, turn, Turn.progress]
  simp [Attempt.exec]

/-- A run is made of the turns up to the first failure. -/
theorem run_runScenarios (site : Site) (scenarios : List (Scenario σ)) (kernel : σ) :
    let done := throughFailure (turns site scenarios kernel)
    (runScenarios site scenarios).run kernel =
      ⟨done.map Turn.result, stateAfter kernel done,
        done.flatMap Turn.progress ++ farewell scenarios.length done⟩ := by
  induction scenarios generalizing kernel with
  | nil => rfl
  | cons scenario rest ih =>
      unfold runScenarios turns throughFailure
      simp only [Recorded.run_bind, run_runScenario]
      by_cases failed : (turn site scenario kernel).outcome.isFailed
      · have ended : farewell (scenario :: rest).length [turn site scenario kernel] =
            [.event (.log ⟨.warn,
              s!"stopping after {scenario.name}; {rest.length} scenarios not run"⟩)] :=
          if_pos failed
        simp only [failed, if_true, ended, List.flatMap_singleton, List.map_singleton]
        rfl
      · rw [if_neg failed, if_neg failed, List.length_cons, farewell_cons failed, stateAfter_cons]
        simp only [Recorded.run_bind, ih, Recorded.run_pure, List.append_nil, List.flatMap_cons,
          List.map_cons, List.append_assoc]
        rfl

theorem notices_farewell (planned : Nat) (done : List (Turn σ)) :
    Progress.notices (farewell planned done) = [] := by
  unfold farewell
  split
  · rfl
  · split <;> rfl

theorem exchanges_farewell (planned : Nat) (done : List (Turn σ)) :
    (Progress.trace (farewell planned done)).exchanges = [] := by
  unfold farewell
  split
  · rfl
  · split <;> rfl

theorem notices_flatMap_progress (done : List (Turn σ)) :
    Progress.notices (done.flatMap Turn.progress) = done.flatMap Turn.notices := by
  induction done with
  | nil => rfl
  | cons first later ih =>
      rw [List.flatMap_cons, Progress.notices_append, first.notices_progress, ih,
        List.flatMap_cons]

theorem exchanges_flatMap_progress (done : List (Turn σ)) :
    (Progress.trace (done.flatMap Turn.progress)).exchanges =
      done.flatMap (·.trace.exchanges) := by
  induction done with
  | nil => rfl
  | cons first later ih =>
      rw [List.flatMap_cons, Progress.trace_append, Trace.exchanges_append,
        first.exchanges_progress, ih, List.flatMap_cons]

theorem run_run (suite : Suite σ) (kernel : σ) :
    let done := throughFailure (turns suite.site suite.scenarios kernel)
    let report : Report := ⟨suite.scenarios.length, done.map Turn.result⟩
    let base := suite.site.base
    let privileges := suite.site.privileges.text
    suite.run.run kernel =
      ⟨report, stateAfter kernel done,
        .event (.log ⟨.info,
          s!"running {report.planned} scenarios against {base} ({privileges})"⟩) ::
          (done.flatMap Turn.progress ++ farewell report.planned done ++
            [.notice (.suiteFinished report)])⟩ := by
  have ran := run_runScenarios suite.site suite.scenarios kernel
  simp only [run, Recorded.run_bind, log, notify, Recorded.run_tell, ran, Recorded.run_pure,
    List.append_nil, List.singleton_append]

/-! ## The driver law -/

/-- What a run did: these turns were taken, and those behind them were not. -/
structure Drives (suite : Suite σ) (kernel : σ) (ran : Ran Progress σ Report)
    (done left : List (Turn σ)) : Prop where
  split : turns suite.site suite.scenarios kernel = done ++ left
  /-- No turn but the last failed. -/
  goesOn : ∀ turn ∈ done.dropLast, ¬ turn.outcome.isFailed
  /-- Only a failure keeps the others from their turns. -/
  stops : left ≠ [] → ∃ last ∈ done.getLast?, last.outcome.isFailed
  exchanges : (Progress.trace ran.record).exchanges = done.flatMap (·.trace.exchanges)
  state : ran.state = stateAfter kernel done
  planned : ran.value.planned = suite.scenarios.length
  results : ran.value.results = done.map Turn.result
  notices : Progress.notices ran.record = done.flatMap Turn.notices ++ [.suiteFinished ran.value]

theorem drives_run (suite : Suite σ) (kernel : σ) :
    ∃ left, Drives suite kernel (suite.run.run kernel)
      (throughFailure (turns suite.site suite.scenarios kernel)) left := by
  have ⟨left, split, stops⟩ :=
    exists_throughFailure_append (turns suite.site suite.scenarios kernel)
  have goesOn := not_isFailed_of_mem_dropLast (turns suite.site suite.scenarios kernel)
  rw [run_run suite kernel]
  generalize throughFailure (turns suite.site suite.scenarios kernel) = done at *
  refine ⟨left, split, goesOn, stops, ?_, rfl, rfl, rfl, ?_⟩
  · rw [← List.singleton_append, Progress.trace_append, Progress.trace_append,
      Progress.trace_append, Trace.exchanges_append, Trace.exchanges_append,
      Trace.exchanges_append, exchanges_flatMap_progress, exchanges_farewell]
    rw [List.append_nil]
    exact List.append_nil _
  · rw [← List.singleton_append, Progress.notices_append, Progress.notices_append,
      Progress.notices_append, notices_flatMap_progress, notices_farewell, List.append_nil]
    rfl

/-- A run takes the turns up to and including the first failure and no other, its report, its
notices and its calls are those of these turns, and what the report tells of itself agrees. -/
theorem run_takes_turns (suite : Suite σ) (kernel : σ) :
    let ran := suite.run.run kernel
    ran.value.Agrees ∧ ∃ done left, Drives suite kernel ran done left := by
  intro ran
  have ⟨left, drives⟩ := drives_run suite kernel
  generalize throughFailure (turns suite.site suite.scenarios kernel) = done at drives
  have lengths : ran.value.planned = ran.value.results.length + left.length := by
    rw [drives.planned, drives.results, ← length_turns suite.site suite.scenarios kernel,
      drives.split, List.length_append, List.length_map]
  have early : ∀ result ∈ ran.value.results.dropLast, ¬ result.2.isFailed := by
    rw [drives.results, ← List.map_dropLast]
    intro result member
    have ⟨turn, among, same⟩ := List.mem_map.1 member
    rw [← same]
    exact drives.goesOn turn among
  have stopped : ran.value.results.length < ran.value.planned →
      ∃ result ∈ ran.value.results.getLast?, result.2.isFailed := by
    intro less
    have more : left ≠ [] := by
      rw [← List.length_pos_iff]
      omega
    have ⟨last, member, failed⟩ := drives.stops more
    have itself : last.result ∈ ran.value.results.getLast? := by
      rw [drives.results, List.getLast?_map, Option.mem_def.1 member]
      rfl
    exact ⟨last.result, itself, failed⟩
  exact ⟨Report.agrees early (lengths ▸ Nat.le_add_right ..) stopped, done, left, drives⟩

end Suite

end CopyUp
