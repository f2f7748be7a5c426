import CopyUp.Kernel.Script
import CopyUp.Proofs.Denials
import CopyUp.Proofs.Lockstep
import CopyUp.Proofs.Sites

/-!
# Hosts

What a host tells of itself decides nothing. Runs on two hosts that are answered alike go in
lockstep: the limit on open files shows in the number to duplicate to, the privileges in the words
of a denial, and neither in what a check comes to.
-/

namespace CopyUp

open Scenario (exercise Scene)

/-! ## Alike on two hosts -/

section

variable (first second : Host)

/-- The same outcome, or the denial of a change of owners or attributes, which names the privileges
that were lacking. -/
inductive Outcome.Alike (name : String) : Outcome → Outcome → Prop
  | same (outcome : Outcome) : Alike name outcome outcome
  | denied {trigger : Trigger} (named : name = trigger.scenarioName)
      (lenient : trigger = .ownershipChange ∨ trigger = .attributeSet) (operation : String) :
      Alike name (.skipped (.denied operation .eperm (.ofHost first)))
        (.skipped (.denied operation .eperm (.ofHost second)))

/-- The same event, but for the lowest number to duplicate to and the privileges in a log line. -/
inductive Event.Alike : Event → Event → Prop
  | exchange (purpose : Purpose) (exchange : Exchange) :
      Alike (.exchange purpose exchange) (.exchange purpose exchange)
  | duplicate (fd : Descriptor) (reply : Except Errno Descriptor) :
      Alike
        (.exchange .acquire
          ⟨.dup fd (Scenario.Enumeration.parkingNumber first.descriptorLimit), reply⟩)
        (.exchange .acquire
          ⟨.dup fd (Scenario.Enumeration.parkingNumber second.descriptorLimit), reply⟩)
  | log (severity : Severity) (text : Privileges → String) :
      Alike (.log ⟨severity, text (.ofHost first)⟩) (.log ⟨severity, text (.ofHost second)⟩)

/-- The same checks were planned, and those that ran came to outcomes alike. -/
structure Report.Alike (one other : Report) : Prop where
  planned : one.planned = other.planned
  results : List.Forall₂ (fun mine yours => mine.1 = yours.1 ∧
    Outcome.Alike first second mine.1 mine.2 yours.2) one.results other.results

inductive Progress.Alike : Progress → Progress → Prop
  | event {one other : Event} (alike : Event.Alike first second one other) :
      Alike (.event one) (.event other)
  | started (name : String) : Alike (.notice (.started name)) (.notice (.started name))
  | finished {name : String} {one other : Outcome}
      (alike : Outcome.Alike first second name one other) :
      Alike (.notice (.finished name one)) (.notice (.finished name other))
  | suiteFinished {one other : Report} (alike : Report.Alike first second one other) :
      Alike (.notice (.suiteFinished one)) (.notice (.suiteFinished other))

def Interrupt.Alike (name : String) (one other : Interrupt) : Prop :=
  Outcome.Alike first second name (.ofResult (.error one)) (.ofResult (.error other))

end

variable {first second : Host}

theorem Event.Alike.refl (event : Event) : Event.Alike first second event event := by
  cases event with
  | exchange purpose answered => exact .exchange purpose answered
  | log line => exact .log line.severity fun _ => line.text

theorem Interrupt.Alike.refl {name : String} (interrupt : Interrupt) :
    Interrupt.Alike first second name interrupt interrupt := .same _

/-! ## Scenarios -/

namespace Scenario

variable {σ : Type} {trigger : Trigger}

theorem lockstep_judge (operation : String) (result : Except IoError Unit) :
    (judge (σ := σ) (.ofHost first) trigger operation result).Lockstep (Event.Alike first second)
      (Interrupt.Alike first second trigger.scenarioName) Eq
      (judge (.ofHost second) trigger operation result) := by
  unfold judge
  cases effect : Effect.ofResult trigger.toleratesDenial result with
  | applied | unsupported | failed => exact .refl .refl .refl _
  | denied errno =>
      have ⟨_, eperm, lenient⟩ := Effect.eq_of_denied effect
      cases eperm
      apply Attempt.Lockstep.bind_same .refl .refl
      intro _
      exact .throw (.denied rfl (Trigger.toleratesDenial_iff.1 lenient) operation)

variable [Kernel σ]

theorem lockstep_performOpen (scene : Scene) (fd : Descriptor) (step : OpenStep) :
    ({ scene with privileges := .ofHost first }.performOpen (σ := σ) fd step).Lockstep
      (Event.Alike first second) (Interrupt.Alike first second scene.trigger.scenarioName) Eq
      ({ scene with privileges := .ofHost second }.performOpen fd step) := by
  cases step with
  | change change =>
      apply Attempt.Lockstep.bind_same .refl .refl
      exact fun result => lockstep_judge _ result
  | stable after => exact .refl .refl .refl _

theorem lockstep_perform (scene : Scene) (step : Step) :
    ({ scene with privileges := .ofHost first }.perform (σ := σ) step).Lockstep
      (Event.Alike first second) (Interrupt.Alike first second scene.trigger.scenarioName) Eq
      ({ scene with privileges := .ofHost second }.perform step) := by
  cases step with
  | removeStale | cleanUp => exact .refl .refl .refl _
  | check check => cases check <;> exact .refl .refl .refl _
  | change change file =>
      apply Attempt.Lockstep.bind_same .refl .refl
      exact fun result => lockstep_judge _ result
  | opened access steps =>
      apply Attempt.Lockstep.withFile .refl .refl
      intro fd
      exact .forM fun step _ => lockstep_performOpen scene fd step

/-- The privileges come into a scenario only with the words of a denial. -/
theorem lockstep_exercise (trigger : Trigger) (base : Path) :
    (exercise (σ := σ) trigger base (.ofHost first)).Lockstep (Event.Alike first second)
      (Interrupt.Alike first second trigger.scenarioName) Eq
      (exercise trigger base (.ofHost second)) := by
  apply Attempt.Lockstep.bind_same .refl .refl
  intro snapshot
  apply Attempt.Lockstep.bind_same .refl .refl
  intro owner
  let scene : Scene := ⟨base, .ofHost first, trigger, snapshot, owner⟩
  exact .forM fun step _ => lockstep_perform scene step

end Scenario

/-! ## The listing check -/

/-- A script hands out its next number, whatever the lowest one is to be. -/
theorem Script.answer_dup (fd floor other : Descriptor) (script : Script) :
    Kernel.answer (.dup fd floor) script = Kernel.answer (.dup fd other) script := by
  cases script with
  | mk entries next =>
      cases entries with
      | nil => rfl
      | cons entry rest => cases entry <;> rfl

namespace Scenario.Enumeration

theorem exec_duplicate {σ : Type} [Kernel σ] (fd floor : Descriptor) (kernel : σ) :
    (FileSystem.issue .acquire (.dup fd floor)).exec kernel =
      let answered := Kernel.answer (.dup fd floor) kernel
      ⟨answered.1.mapError .os, answered.2,
        [.exchange .acquire ⟨.dup fd floor, answered.1⟩]⟩ := by
  rw [FileSystem.exec_issue .acquire (by simp [Call.paths]),
    Session.perform_of_not_restarts .acquire (by simp [Call.restarts])]
  rfl

theorem lockstep_duplicate (fd : Descriptor) :
    Attempt.Lockstep (σ := Script) (Event.Alike first second) Eq
      (fun one other : Descriptor => one = other)
      (FileSystem.issue .acquire (.dup fd (parkingNumber first.descriptorLimit)))
      (FileSystem.issue .acquire (.dup fd (parkingNumber second.descriptorLimit))) := by
  intro script
  show ((FileSystem.issue .acquire (.dup fd _)).exec script).Matches _ _
    ((FileSystem.issue .acquire (.dup fd _)).exec script)
  rw [exec_duplicate, exec_duplicate, script.answer_dup fd _ (parkingNumber second.descriptorLimit)]
  exact ⟨.refl (fun _ => rfl) _, rfl, .cons (.duplicate fd _) .nil⟩

theorem lockstep_park (fd : Descriptor) :
    (park (σ := Script) first.descriptorLimit fd).Lockstep (Event.Alike first second) Eq Eq
      (park second.descriptorLimit fd) := by
  apply (lockstep_duplicate fd).settle.bind
  intro result answer matched
  cases matched with
  | ok same =>
      cases same
      exact .refl .refl (fun _ => rfl) _
  | error same =>
      cases same
      exact .refl .refl (fun _ => rfl) _

theorem lockstep_checkClosed (fd : Descriptor) :
    (checkClosed (σ := Script) first.descriptorLimit fd).Lockstep (Event.Alike first second) Eq Eq
      (checkClosed second.descriptorLimit fd) := by
  apply (lockstep_park fd).bind
  intro parked other same
  cases same
  exact .refl .refl (fun _ => rfl) _

theorem lockstep_checkDirectory (target : Path) (entry : String) (fd : Descriptor) :
    (checkDirectory (σ := Script) target entry first.descriptorLimit fd).Lockstep
      (Event.Alike first second) Eq Eq
      (checkDirectory target entry second.descriptorLimit fd) := by
  apply Attempt.Lockstep.bind_same .refl fun _ => rfl
  intro result
  cases result with
  | ok => exact lockstep_checkClosed fd
  | error failure => exact .refl .refl (fun _ => rfl) _

theorem lockstep_checkBoth (target : Path) (entry : String) :
    (checkBoth (σ := Script) target entry first.descriptorLimit).Lockstep
      (Event.Alike first second) Eq Eq (checkBoth target entry second.descriptorLimit) := by
  apply Attempt.Lockstep.bind_same .refl fun _ => rfl
  intro fd
  apply (lockstep_checkDirectory target entry fd).bind
  intro _ _ _
  exact .refl .refl (fun _ => rfl) _

/-- The limit on open files comes into the check only with the number to duplicate to. -/
theorem lockstep_run (target : Path) (entry : String) :
    (run (σ := Script) target entry first.descriptorLimit).Lockstep (Event.Alike first second)
      (Interrupt.Alike first second name) Eq (run target entry second.descriptorLimit) := by
  apply Attempt.Lockstep.bind_same .refl .refl
  intro found
  cases found with
  | none => exact .refl .refl .refl _
  | some metadata =>
      apply (lockstep_checkBoth target entry).explain
      intro one other same
      exact same ▸ .refl _

end Scenario.Enumeration

/-! ## Suites -/

theorem Outcome.Alike.ofResult {name : String} {one other : Except Interrupt Unit}
    (matched : Matched (Interrupt.Alike first second name) Eq one other) :
    Outcome.Alike first second name (.ofResult one) (.ofResult other) := by
  cases matched with
  | error alike => exact alike
  | ok same => exact same ▸ .same _

theorem Outcome.Alike.isFailed_eq {name : String} {one other : Outcome}
    (alike : Outcome.Alike first second name one other) : one.isFailed = other.isFailed := by
  cases alike <;> rfl

theorem Event.Alike.outcome {name : String} {one other : Outcome}
    (alike : Outcome.Alike first second name one other) :
    Event.Alike first second (.log ⟨Suite.outcomeSeverity one, s!"{name}: {one.text}"⟩)
      (.log ⟨Suite.outcomeSeverity other, s!"{name}: {other.text}"⟩) := by
  cases alike with
  | same => exact .refl _
  | denied _ _ operation =>
      exact .log .warn fun privileges =>
        s!"{name}: {(Outcome.skipped (.denied operation .eperm privileges)).text}"

namespace Suite

theorem lockstep_of_mem_catalog {plan sited : Plan} {scenario : Scenario Script}
    (member : scenario ∈ catalog plan) :
    (scenario.run (first.site sited)).Lockstep (Event.Alike first second)
      (Interrupt.Alike first second scenario.name) Eq (scenario.run (second.site sited)) := by
  cases List.mem_append.1 member with
  | inl triggered =>
      have ⟨trigger, _, same⟩ := List.mem_map.1 triggered
      rw [← same]
      exact Scenario.lockstep_exercise trigger sited.base
  | inr listed =>
      by_cases wanted : plan.enumeration
      · rw [if_pos wanted] at listed
        rw [List.mem_singleton.1 listed]
        exact Scenario.Enumeration.lockstep_run sited.target sited.entry
      · rw [if_neg wanted] at listed
        contradiction

theorem lockstep_log (severity : Severity) (text : Privileges → String) :
    (log (σ := Script) severity (text (.ofHost first))).Lockstep (Progress.Alike first second) Eq
      (log severity (text (.ofHost second))) :=
  .tell (.event (.log severity text))

theorem lockstep_runScenario {sited : Plan} {scenario : Scenario Script}
    (lockstep : (scenario.run (first.site sited)).Lockstep (Event.Alike first second)
      (Interrupt.Alike first second scenario.name) Eq (scenario.run (second.site sited))) :
    (runScenario (first.site sited) scenario).Lockstep (Progress.Alike first second)
      (Outcome.Alike first second scenario.name) (runScenario (second.site sited) scenario) := by
  apply (Recorded.Lockstep.tell (.started scenario.name)).bind
  intro _ _ _
  apply (lockstep.mapRecord fun _ _ => .event).bind
  intro result answer matched
  have alike := Outcome.Alike.ofResult matched
  apply (Recorded.Lockstep.tell (.event (.outcome alike))).bind
  intro _ _ _
  apply (Recorded.Lockstep.tell (.finished alike)).bind
  intro _ _ _
  exact .pure alike

theorem lockstep_runScenarios {sited : Plan} {scenarios : List (Scenario Script)}
    (each : ∀ scenario ∈ scenarios,
      (scenario.run (first.site sited)).Lockstep (Event.Alike first second)
        (Interrupt.Alike first second scenario.name) Eq (scenario.run (second.site sited))) :
    (runScenarios (first.site sited) scenarios).Lockstep (Progress.Alike first second)
      (List.Forall₂ fun one other =>
        one.1 = other.1 ∧ Outcome.Alike first second one.1 one.2 other.2)
      (runScenarios (second.site sited) scenarios) := by
  induction scenarios with
  | nil => exact .pure .nil
  | cons scenario rest ih =>
      apply (lockstep_runScenario (each scenario List.mem_cons_self)).bind
      intro one other alike
      rw [alike.isFailed_eq]
      by_cases failed : other.isFailed
      · rw [if_pos failed, if_pos failed]
        apply (lockstep_log _ fun _ => _).bind
        intro _ _ _
        exact .pure (.cons ⟨rfl, alike⟩ .nil)
      · rw [if_neg failed, if_neg failed]
        apply (ih fun later member => each later (List.mem_cons_of_mem _ member)).bind
        intro results others matched
        exact .pure (.cons ⟨rfl, alike⟩ matched)

theorem lockstep_run {sited : Plan} {scenarios : List (Scenario Script)}
    (each : ∀ scenario ∈ scenarios,
      (scenario.run (first.site sited)).Lockstep (Event.Alike first second)
        (Interrupt.Alike first second scenario.name) Eq (scenario.run (second.site sited))) :
    (Suite.mk (first.site sited) scenarios).run.Lockstep (Progress.Alike first second)
      (Report.Alike first second) (Suite.mk (second.site sited) scenarios).run := by
  let opening (privileges : Privileges) : String :=
    s!"running {scenarios.length} scenarios against {sited.base} ({privileges.text})"
  apply (lockstep_log .info opening).bind
  intro _ _ _
  apply (lockstep_runScenarios each).bind
  intro results others matched
  have alike : Report.Alike first second ⟨scenarios.length, results⟩ ⟨scenarios.length, others⟩ :=
    ⟨rfl, matched⟩
  apply (Recorded.Lockstep.tell (.suiteFinished alike)).bind
  intro _ _ _
  exact .pure alike

theorem lockstep_prepare (plan : Plan) :
    (Site.prepare (σ := Script) first plan).Lockstep (Event.Alike first second) Eq
      (fun one other => ∃ sited, one = first.site sited ∧ other = second.site sited)
      (Site.prepare second plan) := by
  apply Attempt.Lockstep.bind_same .refl fun _ => rfl
  intro base
  apply Attempt.Lockstep.bind_same .refl fun _ => rfl
  intro directory
  let told (privileges : Privileges) : String := s!"environment: {privileges.text}"
  apply (Attempt.Lockstep.log (.log .debug told)).bind
  intro _ _ _
  exact .pure ⟨{ plan with base, directory }, rfl, rfl⟩

theorem lockstep_conduct (plan : Plan) :
    (conduct (σ := Script) first plan).Lockstep (Progress.Alike first second)
      (Matched Eq (Report.Alike first second)) (conduct second plan) := by
  rw [conduct_eq, conduct_eq]
  apply ((lockstep_prepare plan).mapRecord fun _ _ => .event).bind
  intro prepared other matched
  cases matched with
  | error same => exact .pure (.error same)
  | ok same =>
      have ⟨sited, mine, yours⟩ := same
      rw [mine, yours]
      exact (lockstep_run fun _ => lockstep_of_mem_catalog).map fun _ _ => .ok

end Suite

/-- Whatever two hosts tell of themselves, on the same answers the same plan makes the same calls
but for the number to duplicate to, runs the same scenarios and comes to the same outcomes but for
the privileges that a denial names; and a denial is told where the last call that is no close was a
change that was answered so. -/
theorem hosts_decide_nothing (first second : Host) (plan : Plan) (script : Script) :
    let one := (Suite.conduct first plan).run script
    let other := (Suite.conduct second plan).run script
    one.Matches (Progress.Alike first second) (Matched Eq (Report.Alike first second)) other ∧
      Progress.DenialsTold one.record ∧ Progress.DenialsTold other.record :=
  ⟨Suite.lockstep_conduct plan script, Suite.denialsTold_conduct first plan script,
    Suite.denialsTold_conduct second plan script⟩

end CopyUp
