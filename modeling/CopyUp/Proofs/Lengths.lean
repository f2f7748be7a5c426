import Mathlib.Algebra.Order.BigOperators.Group.List
import CopyUp.Proofs.Rounds
import CopyUp.Proofs.Selection
import CopyUp.Proofs.Signals

/-!
# The length of runs

Scenarios, the listing check, seeding and suites are straight lines of operations, so beside the
further rounds of the loops each makes as many calls at most as its operations together. A script
has an entry used up by each further round and grants what is behind its last entry, so it bounds
the length of every run.
-/

namespace CopyUp

open Asked (Rounds)

/-! ## Scenarios -/

namespace Scenario

open FileSystem

/-- How many calls of a check make no loop ask again, at most. -/
def Check.most : Check → Nat
  | stableAll => 5
  | _ => 1

def Step.most : Step → Nat
  | .check made _ _ => made.most
  | .opened _ steps => steps.length + 2
  | _ => 1

def most (trigger : Trigger) : Nat := ((steps trigger).map Step.most).sum + 3

variable {σ : Type} [Kernel σ]

theorem OpenChange.within_apply (owner : Owner) (fd : Descriptor) (change : OpenChange) :
    (change.apply (σ := σ) owner fd).Within 1 := by
  cases change with
  | write | pwrite => exact within_writeAll _ _ _ _
  | ftruncate | fchmod | fchown | futimens | fsetxattr | fremovexattr | fallocate =>
      exact (within_issue _ _).discard

theorem within_judge (privileges : Privileges) (trigger : Trigger) (operation : String)
    (result : Except IoError Unit) :
    (judge privileges trigger operation result : Attempt σ Interrupt Unit).Within 0 := by
  unfold judge
  cases Effect.ofResult trigger.toleratesDenial result with
  | applied => exact .log _ _
  | unsupported | denied => exact .after_log (.throw _) _ _
  | failed => exact .throw _

namespace Scene

variable (scene : Scene)

theorem within_judge {operation : String} {change : Attempt σ IoError Unit}
    (within : change.Within 1) : (scene.judge operation change).Within 1 :=
  within.bind_settle fun _ => Scenario.within_judge _ _ _ _

theorem within_check (check : Check) (file : Role) (after : String) :
    (scene.check (σ := σ) check file after).Within check.most := by
  cases check with
  | stable => exact scene.snapshot.within_stable _ _
  | stableLink => exact scene.snapshot.within_stableLink _ _
  | stableAll => exact scene.snapshot.within_stableAll _ _
  | absent => exact Snapshot.within_absent _ _
  | linkCount minimum => exact Snapshot.within_linkCount _ _ _

theorem within_performOpen (fd : Descriptor) (step : OpenStep) :
    (scene.performOpen (σ := σ) fd step).Within 1 := by
  cases step with
  | change change => exact scene.within_judge (change.within_apply _ fd)
  | stable after => exact (scene.snapshot.within_stableOpen fd after).explain _

theorem within_perform (step : Step) : (scene.perform (σ := σ) step).Within step.most := by
  cases step with
  | removeStale file => exact ((within_removeStale _).explain _).explain _
  | change change file => exact scene.within_judge (within_issue _ _).discard
  | check check file after => exact (scene.within_check check file after).explain _
  | opened access steps =>
      have opening : (Attempt.must (Attempt.strictly access.operation (issue (σ := σ) .acquire
          (.openFile (scene.path .fixture) access.flags)))).Within 1 :=
        ((within_issue _ _).explain _).explain _
      have used : ∀ fd, (steps.forM (scene.performOpen (σ := σ) fd)).Within steps.length := by
        intro fd
        have each : (steps.forM (scene.performOpen (σ := σ) fd)).Within
            (steps.map fun _ => 1).sum := .forM fun step _ => scene.within_performOpen fd step
        simpa using each
      exact (within_withFile opening used).mono (by simp only [Step.most]; omega)
  | cleanUp file => exact (((within_issue _ _).discard).explain _).explain _

end Scene

theorem within_resolve (base : Path) (trigger : Trigger) :
    (Fixture.resolve (σ := σ) base trigger).Within (1 + 1) := by
  apply (((within_lookup _ _).explain _).explain _).bind
  intro found
  cases found with
  | none => exact .mono (.after_log (.throw _) _ _) (Nat.zero_le 1)
  | some metadata =>
      apply ((Snapshot.within_stable _ _ _).explain _).last
      intro _
      exact .after_log (.pure _) _ _

theorem within_ownerFor (trigger : Trigger) (path : Path) :
    (ownerFor (σ := σ) trigger path).Within 1 := by
  unfold ownerFor
  split
  · apply Attempt.Within.explain
    apply ((within_lookup _ _).explain _).last
    intro found
    cases found with
    | none => exact .throw _
    | some metadata => exact .pure _
  · exact .mono (.pure _) (Nat.zero_le 1)

theorem within_exercise (trigger : Trigger) (base : Path) (privileges : Privileges) :
    (exercise (σ := σ) trigger base privileges).Within (most trigger) := by
  have whole : (exercise (σ := σ) trigger base privileges).Within
      (2 + (1 + ((steps trigger).map Step.most).sum)) :=
    (within_resolve base trigger).bind fun snapshot =>
      (within_ownerFor trigger _).bind fun owner =>
        .forM fun step _ => Scene.within_perform _ step
  exact whole.mono (by unfold most; omega)

end Scenario

/-! ## The listing check -/

namespace Scenario.Enumeration

open FileSystem

variable {σ : Type} [Kernel σ]

theorem within_checkListing (target : Path) (entry : String) (fd : Descriptor) :
    (checkListing (σ := σ) target entry fd).Within 1 :=
  ((Directory.within_list fd).explain _).bind fun _ => .after_log (.conclude _) _ _

theorem within_expectError (operation : String) (expected : Errno) (fd : Descriptor) :
    (expectError (σ := σ) operation expected fd).Within 1 := by
  apply (Directory.within_fill .probe fd).last_settle
  intro result
  cases result with
  | ok bytes => exact .throw _
  | error error =>
      dsimp only
      split
      · exact .log _ _
      · exact .throw _

theorem within_park (limit : Except Errno UInt64) (fd : Descriptor) :
    (park (σ := σ) limit fd).Within (1 + 1) := by
  apply (within_issue _ _).bind_settle
  intro result
  cases result with
  | ok parked => exact (within_release fd).bind fun _ => .pure _
  | error error =>
      dsimp only
      split
      · exact .mono (.after_log (.pure _) _ _) (Nat.zero_le 1)
      · exact (within_release fd).bind fun _ => .throw _

theorem within_checkClosed (limit : Except Errno UInt64) (fd : Descriptor) :
    (checkClosed (σ := σ) limit fd).Within 4 :=
  (within_park limit fd).bind fun _ =>
    ((within_issue _ _).discard.explain _).bind fun _ => within_expectError _ _ _

theorem within_checkDirectory (target : Path) (entry : String) (limit : Except Errno UInt64)
    (fd : Descriptor) : (checkDirectory (σ := σ) target entry limit fd).Within (1 + 4) := by
  apply (within_checkListing target entry fd).bind_settle
  intro result
  cases result with
  | ok => exact within_checkClosed limit fd
  | error failure => exact .mono ((within_release fd).bind fun _ => .throw _) (by decide)

theorem within_checkFile (path : Path) : (checkFile (σ := σ) path).Within 3 :=
  within_withFile ((within_issue _ _).explain _) fun fd => within_expectError _ _ fd

theorem within_run (target : Path) (entry : String) (limit : Except Errno UInt64) :
    (run (σ := σ) target entry limit).Within (1 + 9) := by
  have opening : (Attempt.strictly "open(O_DIRECTORY)" (issue (σ := σ) .acquire
      (.openFile target directoryFlags))).Within 1 := (within_issue _ _).explain _
  have both : (checkBoth (σ := σ) target entry limit).Within (1 + (5 + 3)) :=
    opening.bind fun fd =>
      (within_checkDirectory target entry limit fd).bind fun _ => within_checkFile _
  apply (((within_lookupLink _ _).explain _).explain _).bind
  intro found
  cases found with
  | none => exact (Attempt.Within.after_log (.throw _) _ _).mono (Nat.zero_le 9)
  | some metadata => exact both.explain _

end Scenario.Enumeration

/-! ## Seeding -/

namespace Fixture

open FileSystem

variable {σ : Type} [Kernel σ]

theorem within_seedFile (path : Path) : (seedFile (σ := σ) path).Within 4 :=
  within_withFile (within_issue .acquire (.openFile path seedFlags)) fun fd =>
    (within_writeAll .seeding fd .next payload).bind fun _ =>
      (within_issue .seeding (.fchmod fd mode)).bind fun _ => .log _ _

/-- Four calls for each fixture and one for each leftover. -/
theorem within_seed (directory : Path) : (seed (σ := σ) directory).Within 43 := by
  have files : ((names.map directory.join).forM (seedFile (σ := σ))).Within
      ((names.map directory.join).map fun _ => 4).sum :=
    .forM fun path _ => within_seedFile path
  have gone : (leftovers.forM fun name => removeStale (σ := σ) (directory.join name)).Within
      (leftovers.map fun _ => 1).sum :=
    .forM fun name _ => within_removeStale _
  exact files.bind fun _ => gone.bind fun _ => .after_log (.pure _) _ _

end Fixture

theorem Site.within_prepare {σ : Type} [Kernel σ] (host : Host) (plan : Plan) :
    (prepare (σ := σ) host plan).Within 2 := by
  have second : (canonical? (σ := σ) plan.directory).Within 1 := by
    cases plan.directory with
    | none => exact .mono (.pure _) (Nat.zero_le 1)
    | some directory => exact (FileSystem.within_issue _ _).map _
  exact (FileSystem.within_issue _ _).bind fun _ => second.bind fun _ => .after_log (.pure _) _ _

/-! ## Suites -/

namespace Suite

variable {σ : Type} [Kernel σ] {site : Site}

theorem within_runScenario {scenario : Scenario σ} {most : Nat}
    (within : (scenario.run site).Within most) :
    (runScenario site scenario).Within Progress.asked? most := by
  have events : ((scenario.run site).run.mapRecord Progress.event).Within Progress.asked? most :=
    .mapRecord (fun _ => rfl) within
  apply Recorded.Within.after_tell rfl
  apply events.last
  intro result
  exact .after_tell rfl (.after_tell rfl (.pure _))

theorem within_runScenarios {scenarios : List (Scenario σ)} {costs : List Nat}
    (each : List.Forall₂ (fun scenario cost => (scenario.run site).Within cost) scenarios costs) :
    (runScenarios site scenarios).Within Progress.asked? costs.sum := by
  induction each with
  | nil => exact .pure _
  | @cons scenario cost rest costs within _ ih =>
      rw [List.sum_cons]
      apply (within_runScenario within).bind
      intro outcome
      cases outcome.isFailed with
      | true => exact Recorded.Within.mono (.after_tell rfl (.pure _)) (Nat.zero_le _)
      | false => exact ih.bind fun results => .pure ((scenario.name, outcome) :: results)

theorem within_run {scenarios : List (Scenario σ)} {costs : List Nat}
    (each : List.Forall₂ (fun scenario cost => (scenario.run site).Within cost) scenarios costs) :
    (run ⟨site, scenarios⟩).Within Progress.asked? costs.sum := by
  apply Recorded.Within.after_tell rfl
  apply (within_runScenarios each).last
  intro results
  exact .after_tell rfl (.pure _)

/-- What the scenarios of a plan come to, one by one. -/
def costs (plan : Plan) : List Nat :=
  plan.selected.map Scenario.most ++ if plan.enumeration then [10] else []

theorem within_catalog (site : Site) (plan : Plan) :
    List.Forall₂ (fun (scenario : Scenario σ) cost => (scenario.run site).Within cost)
      (catalog plan) (costs plan) := by
  apply List.rel_append
  · rw [List.forall₂_map_left_iff, List.forall₂_map_right_iff, List.forall₂_same]
    exact fun trigger _ => Scenario.within_exercise trigger _ _
  · cases plan.enumeration with
    | true => exact .cons (Scenario.Enumeration.within_run _ _ _) .nil
    | false => exact .nil

/-- The whole catalog behind the two calls that find the directories. -/
def longest : Nat := 2 + ((Trigger.all.map Scenario.most).sum + 10)

example : longest = 163 := by decide

theorem sum_costs_le (plan : Plan) :
    (costs plan).sum ≤ (Trigger.all.map Scenario.most).sum + 10 := by
  have few : (plan.selected.map Scenario.most).sum ≤ (Trigger.all.map Scenario.most).sum :=
    ((Plan.selected_sublist plan).map _).sum_le_sum fun _ _ => Nat.zero_le _
  have listing : (if plan.enumeration then [10] else []).sum ≤ 10 := by
    cases plan.enumeration <;> decide
  rw [costs, List.sum_append]
  exact Nat.add_le_add few listing

theorem within_conduct (host : Host) (plan : Plan) :
    (conduct (σ := σ) host plan).Within Progress.asked? longest := by
  rw [conduct_eq]
  have prepared : ((Site.prepare (σ := σ) host plan).run.mapRecord Progress.event).Within
      Progress.asked? 2 := .mapRecord (fun _ => rfl) (Site.within_prepare host plan)
  apply prepared.bind
  intro found
  cases found with
  | ok site =>
      exact .map _ ((within_run (within_catalog site plan)).mono (sum_costs_le plan))
  | error error => exact (Recorded.Within.pure _).mono (Nat.zero_le _)

end Suite

/-! ## Scripts -/

/-- So many entries pay for the further rounds: the calls that make a loop ask again are answered by
them, and once they are used up only few calls are left. -/
structure Asked.Paid (entries most : Nat) (asked : List Asked) : Prop where
  paid : ∀ before one after, asked = before ++ one :: after → one.asksAgain →
    before.length < entries
  ends : ∀ before rest, asked = before ++ rest → entries ≤ before.length → rest.length ≤ most
  length_le : asked.length ≤ most + entries

namespace Served

variable {script after : Script} {asked : List Asked}

/-- Each call uses up one entry. -/
theorem entries_eq (served : Served script asked after) :
    after.entries = script.entries.drop asked.length := by
  induction served with
  | nil => rfl
  | @cons purpose call script after rest _ ih =>
      have next : (Kernel.answer call script).2.entries = script.entries.tail :=
        Script.entries_answer call script
      rw [ih, next, List.drop_tail, List.length_cons]

/-- What is granted by default makes no loop ask again. -/
theorem not_asksAgain (purpose : Purpose) (call : Call) (spent : script.entries = []) :
    ¬ Asked.asksAgain ⟨purpose, ⟨call, (Kernel.answer call script).1⟩⟩ := by
  have granted : (Kernel.answer call script).1 =
      .ok (Script.Values.reply {} script.nextDescriptor call) := by
    simp [Kernel.answer, Script.answer, spent]
  rw [granted]
  cases call <;> simp [Asked.asksAgain, Script.Values.reply]

theorem paid (served : Served script asked after) {before rest : List Asked} {one : Asked}
    (split : asked = before ++ one :: rest) (again : one.asksAgain) :
    before.length < script.entries.length := by
  rw [split] at served
  have ⟨between, earlier, later⟩ := served.exists_between
  cases later with
  | cons =>
      by_contra spent
      apply not_asksAgain _ _ _ again
      rw [earlier.entries_eq]
      exact List.drop_eq_nil_of_le (Nat.le_of_not_lt spent)

end Served

namespace Recorded

variable {ω α : Type} {asks : ω → Option Asked} {most : Nat}

def Ends (asks : ω → Option Asked) (most : Nat) (computation : Recorded ω Script α) : Prop :=
  ∀ script, Asked.Paid script.entries.length most ((computation.run script).record.filterMap asks)

theorem Within.ends {computation : Recorded ω Script α} (within : computation.Within asks most) :
    computation.Ends asks most := by
  intro script
  have served := within.served script
  have few := within.conclusions script
  generalize (computation.run script).record.filterMap asks = asked at served few ⊢
  have ends : ∀ before rest, asked = before ++ rest → script.entries.length ≤ before.length →
      rest.length ≤ most := by
    intro before rest split spent
    have last : ∀ one ∈ rest, ¬ one.asksAgain := by
      intro one member again
      have ⟨first, later, parts⟩ := List.append_of_mem member
      have parted : asked = (before ++ first) ++ one :: later := by
        rw [split, parts, List.append_assoc]
      have paid := served.paid parted again
      rw [List.length_append] at paid
      omega
    rw [split, Asked.conclusions_append, Asked.conclusions_of_conclusive last] at few
    omega
  refine ⟨fun before one after split again => served.paid split again, ends, ?_⟩
  by_cases short : asked.length ≤ script.entries.length
  · omega
  · have left := ends (asked.take script.entries.length) (asked.drop script.entries.length)
      (List.take_append_drop ..).symm (by rw [List.length_take]; omega)
    rw [List.length_drop] at left
    omega

/-- A loop goes on after an answer that makes it ask again only, and ends with one call that no
entry pays for at most. -/
structure Loops (asks : ω → Option Asked) (loop : Recorded ω Script α) : Prop where
  rounds : ∀ script, Rounds ((loop.run script).record.filterMap asks)
  ends : loop.Ends asks 1

end Recorded

theorem Attempt.Ensures.loops {ε α : Type} {loop : Attempt Script ε α}
    {post : Except ε α → List Asked → Prop} (ensured : loop.Ensures post)
    (rounds : ∀ result asked, post result asked → Rounds asked) :
    loop.run.Loops Event.asked? :=
  ⟨fun script => rounds _ _ (ensured.post script),
    Recorded.Within.ends (ensured.within fun _ _ met => (rounds _ _ met).conclusions_le)⟩

theorem Session.loops_perform (purpose : Purpose) (call : Call) :
    (perform (σ := Script) purpose call).Loops Event.asked? :=
  ⟨fun script => (answered_perform purpose call script).rounds,
    (within_perform purpose call).ends⟩

/-- Every run ends. No bound on the rounds of a loop is ever felt, a script pays for each further
round with an entry of its own, and beside these rounds no run makes more calls than the longest
suite does. -/
theorem runs_end :
    (∀ purpose call, (Session.perform purpose call).Loops Event.asked? ∧
      ∀ (script : Script) extra,
        (Session.askWithin purpose call (script.entries.length + extra)).run script =
          (Session.persist purpose call).run script) ∧
    (∀ purpose fd place bytes,
      (FileSystem.writeAll purpose fd place bytes).run.Loops Event.asked? ∧
      ∀ extra, FileSystem.writeWithin (σ := Script) purpose fd (bytes.length + extra) place bytes =
        FileSystem.writeAll purpose fd place bytes) ∧
    (∀ fd, (Directory.list fd).run.Loops Event.asked? ∧
      ∀ (script : Script) extra,
        (Directory.listWithin fd (script.entries.length + extra)).exec script =
          (Directory.list fd).exec script) ∧
    ∃ most, (∀ directory, (Fixture.seed directory).run.Ends Event.asked? most) ∧
      (∀ trigger base privileges,
        (Scenario.exercise trigger base privileges).run.Ends Event.asked? most) ∧
      (∀ target entry limit,
        (Scenario.Enumeration.run target entry limit).run.Ends Event.asked? most) ∧
      ∀ host plan, (Suite.conduct host plan).Ends Progress.asked? most := by
  refine ⟨fun purpose call => ⟨Session.loops_perform purpose call, fun script extra => ?_⟩,
    fun purpose fd place bytes => ⟨?_, fun extra => ?_⟩, fun fd => ⟨?_, fun script extra => ?_⟩,
    Suite.longest, fun directory => ?_, fun trigger base privileges => ?_,
    fun target entry limit => ?_, fun host plan => ?_⟩
  · exact Session.run_askWithin purpose call (Nat.le_add_right ..)
  · exact (FileSystem.ensures_writeAll purpose fd place bytes).loops fun _ _ => (·.rounds)
  · exact FileSystem.writeWithin_of_le purpose fd (Nat.le_add_right ..) (Nat.le_refl _)
  · exact (Directory.ensures_list_drained fd).loops fun _ _ => (·.rounds)
  · exact Directory.exec_listWithin (Nat.le_add_right ..)
  · exact ((Fixture.within_seed directory).mono (by decide)).ends
  · have few : Scenario.most trigger ≤ Suite.longest := by cases trigger <;> decide
    exact ((Scenario.within_exercise trigger base privileges).mono few).ends
  · exact ((Scenario.Enumeration.within_run target entry limit).mono (by decide)).ends
  · exact (Suite.within_conduct host plan).ends

end CopyUp
