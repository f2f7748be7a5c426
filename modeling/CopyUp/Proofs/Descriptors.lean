import CopyUp.Command.Execute
import CopyUp.Kernel.Script
import CopyUp.Proofs.Holdings

/-!
# Discipline in the use of descriptors

Over a script every number is handed out at most once, so a ledger that is empty at the end tells
the whole story of each number: it is handed out, worked through, and closed exactly once.
-/

namespace CopyUp

/-! ## Scripts hand out every number once -/

namespace Script

theorem nextDescriptor_le_answer (call : Call) (script : Script) :
    script.nextDescriptor ≤ (Kernel.answer call script).2.nextDescriptor := by
  have advances : ∀ next : Descriptor, next ≤ advance next call := by
    intro next
    cases call with
    | openFile | dup => exact Int.le_add_one (Int.le_refl next)
    | _ => exact Int.le_refl next
  show script.nextDescriptor ≤ (answer call script).2.nextDescriptor
  unfold answer
  split
  · exact advances _
  · exact Int.le_refl _
  · exact advances _

/-- A number that is handed out is the next one, and is used up. -/
theorem opened_of_answer {purpose : Purpose} {call : Call} {script : Script} {fd : Descriptor}
    (opened : Asked.opened? ⟨purpose, ⟨call, (Kernel.answer call script).1⟩⟩ = some fd) :
    script.nextDescriptor = fd ∧ fd < (Kernel.answer call script).2.nextDescriptor := by
  change Asked.opened? ⟨purpose, ⟨call, (answer call script).1⟩⟩ = some fd at opened
  show script.nextDescriptor = fd ∧ fd < (answer call script).2.nextDescriptor
  revert opened
  unfold answer
  split <;> intro opened <;> cases call <;> cases opened
  all_goals exact ⟨rfl, Int.lt_add_one_of_le (Int.le_refl _)⟩

end Script

def Asked.openedAll (asked : List Asked) : List Descriptor := asked.filterMap Asked.opened?

theorem Served.ascending {script after : Script} {asked : List Asked}
    (served : Served script asked after) :
    (Asked.openedAll asked).Pairwise (· < ·) ∧
      ∀ fd ∈ Asked.openedAll asked, script.nextDescriptor ≤ fd := by
  induction served with
  | nil => simp [Asked.openedAll]
  | @cons purpose call script after rest later ih =>
      obtain ⟨ascending, above⟩ := ih
      have grows := script.nextDescriptor_le_answer call
      cases opened : Asked.opened? ⟨purpose, ⟨call, (Kernel.answer call script).1⟩⟩ with
      | none =>
          rw [Asked.openedAll, List.filterMap_cons_none opened]
          exact ⟨ascending, fun fd member => Int.le_trans grows (above fd member)⟩
      | some fd =>
          obtain ⟨next, used⟩ := Script.opened_of_answer opened
          rw [Asked.openedAll, List.filterMap_cons_some opened]
          refine ⟨List.pairwise_cons.2 ⟨fun other member => ?_, ascending⟩,
            List.forall_mem_cons.2 ⟨Int.le_of_eq next, fun other member => ?_⟩⟩
          · exact Int.lt_of_lt_of_le used (above other member)
          · exact Int.le_trans grows (above other member)

theorem Served.openings_le {script after : Script} {asked : List Asked}
    (served : Served script asked after) (fd : Descriptor) :
    Ledger.openings fd asked ≤ 1 := by
  have distinct : (Asked.openedAll asked).Nodup :=
    served.ascending.1.imp fun less => Int.ne_of_lt less
  have once := List.nodup_iff_count.1 distinct fd
  rw [Asked.openedAll, List.count, List.countP_filterMap] at once
  refine Nat.le_trans (Nat.le_of_eq (List.countP_congr fun one _ => ?_)) once
  cases one.opened? <;> simp

/-! ## Discipline -/

/-- The number was handed out by one of the calls, and none of them closed it. -/
def InUse (asked : List Asked) (fd : Descriptor) : Prop :=
  (∃ one ∈ asked, one.opened? = some fd) ∧ ∀ one ∈ asked, one.closed? ≠ some fd

/-- The probe of a number that the call before closed for it. -/
def ProbesClosed (before : List Asked) (one : Asked) : Prop :=
  ∃ earlier fd capacity closed read,
    before = earlier ++ [⟨.relinquish, ⟨.close fd, closed⟩⟩] ∧
      one = ⟨.probe, ⟨.getdents64 fd capacity, read⟩⟩

/-- Every number that is handed out is closed once, and afterwards; and whatever call works through
a number, a close included, finds it in use. Only a probe may be spared the latter. -/
structure Disciplined (probing : Bool) (asked : List Asked) : Prop where
  closed_once : ∀ before one after fd, asked = before ++ one :: after → one.opened? = some fd →
    Ledger.closings fd before = 0 ∧ Ledger.closings fd after = 1
  in_use : ∀ before one after fd, asked = before ++ one :: after →
    one.call.descriptor? = some fd → InUse before fd ∨ probing = true ∧ ProbesClosed before one

theorem Ledger.eq_append_of_relinquished {asked : List Asked} {fd : Descriptor}
    (relinquished : (Ledger.afterAll {} asked).relinquished = some fd) :
    ∃ earlier closed, asked = earlier ++ [⟨.relinquish, ⟨.close fd, closed⟩⟩] := by
  rcases List.eq_nil_or_concat asked with rfl | ⟨earlier, last, rfl⟩
  · cases relinquished
  · rw [List.concat_eq_append, afterAll_append] at relinquished
    simp only [afterAll_cons, afterAll_nil, after] at relinquished
    by_cases purposely : last.purpose = .relinquish
    · simp only [purposely, if_true] at relinquished
      obtain ⟨purpose, call, reply⟩ := last
      cases purposely
      cases call with
      | close other =>
          cases relinquished
          exact ⟨earlier, reply, List.concat_eq_append⟩
      | _ => cases relinquished
    · simp [purposely] at relinquished

theorem inUse_of_counts {asked : List Asked} {fd : Descriptor}
    (opened : 0 < Ledger.openings fd asked) (kept : Ledger.closings fd asked = 0) :
    InUse asked fd := by
  obtain ⟨one, member, same⟩ := List.countP_pos_iff.1 opened
  refine ⟨⟨one, member, of_decide_eq_true same⟩, fun other among closed => ?_⟩
  exact List.countP_eq_zero.1 kept other among (decide_eq_true closed)

/-- Calls that a ledger accepts, and that end with nothing in use, are disciplined if they come
from a script. -/
theorem disciplined_of_accepts {probing : Bool} {script last : Script} {asked : List Asked}
    (served : Served script asked last) (accepts : Ledger.Accepts probing {} asked)
    (settled : (Ledger.afterAll {} asked).held = []) : Disciplined probing asked := by
  constructor
  · intro before one after fd split opened
    subst split
    have all := Ledger.count_held fd accepts
    have earlier := Ledger.count_held fd (Ledger.accepts_of_append accepts)
    have once := served.openings_le fd
    have stays : one.closed? ≠ some fd := fun closed => by
      rw [(Ledger.descriptor?_of_closed? closed).2] at opened
      cases opened
    simp only [settled, Ledger.openings, Ledger.closings, List.countP_append, List.countP_cons,
      opened, stays, List.count_nil, decide_true, decide_false, if_true, Bool.false_eq_true,
      if_false] at *
    omega
  · intro before one after fd split through
    subst split
    have once := served.openings_le fd
    have earlier := Ledger.count_held fd (Ledger.accepts_of_append accepts)
    rcases Ledger.allows_of_split accepts fd through with member | ⟨probing, purpose, spared⟩
    · have positive := List.count_pos_iff.2 member
      have part : Ledger.openings fd before ≤ Ledger.openings fd (before ++ one :: after) := by
        simp only [Ledger.openings, List.countP_append]
        omega
      rw [List.count_nil] at earlier
      exact .inl (inUse_of_counts (by omega) (by omega))
    · obtain ⟨relinquished, capacity, call⟩ := spared
      obtain ⟨before, closed, rfl⟩ := Ledger.eq_append_of_relinquished relinquished
      obtain ⟨_, _, read⟩ := one
      cases purpose
      cases call
      exact .inr ⟨probing, before, fd, capacity, closed, read, rfl, rfl⟩

theorem Attempt.Keeps.disciplined {ε α : Type} {probing : Bool} {attempt : Attempt Script ε α}
    (keeps : attempt.Keeps probing []) (script : Script) :
    Disciplined probing (Trace.asked (attempt.exec script).record) := by
  have moves := keeps {} (by simp)
  obtain ⟨accepts, settled⟩ := moves.post script
  exact disciplined_of_accepts (moves.served script) accepts settled

/-! ## Suites -/

namespace Progress

def asked (record : List Progress) : List Asked := (trace record).asked

@[simp] theorem asked_append (first second : List Progress) :
    asked (first ++ second) = asked first ++ asked second := by
  simp [asked]

@[simp] theorem asked_map_event (events : Trace) : asked (events.map event) = events.asked := by
  simp [asked]

/-- All calls are allowed, and nothing is in use at any notice or at the end. -/
structure Settled (ledger : Ledger) (record : List Progress) : Prop where
  accepts : ledger.Accepts true (asked record)
  ends : (ledger.afterAll (asked record)).held = []
  notices : ∀ before notice after, record = before ++ .notice notice :: after →
    (ledger.afterAll (asked before)).held = []

theorem Settled.append {ledger : Ledger} {first second : List Progress}
    (left : Settled ledger first) (right : Settled (ledger.afterAll (asked first)) second) :
    Settled ledger (first ++ second) := by
  refine ⟨?_, ?_, fun before notice after split => ?_⟩
  · rw [asked_append]
    exact Ledger.accepts_append.2 ⟨left.accepts, right.accepts⟩
  · rw [asked_append, Ledger.afterAll_append]
    exact right.ends
  · rcases split_append split with ⟨more, rfl, same⟩ | ⟨rest, same, _⟩
    · rw [asked_append, Ledger.afterAll_append]
      exact right.notices more notice after same
    · exact left.notices before notice rest same

def Disciplined (record : List Progress) : Prop :=
  CopyUp.Disciplined true (asked record) ∧
    ∀ before notice after, record = before ++ .notice notice :: after →
      CopyUp.Disciplined true (asked before)

end Progress

structure Recorded.Settles {σ α : Type} [Kernel σ] (computation : Recorded Progress σ α) :
    Prop where
  settled : ∀ kernel (ledger : Ledger), ledger.held = [] →
    Progress.Settled ledger (computation.run kernel).record
  served : ∀ kernel, Served kernel (Progress.asked (computation.run kernel).record)
    (computation.run kernel).state

namespace Recorded.Settles

variable {σ ε α β : Type} [Kernel σ]

protected theorem pure (value : α) : (pure value : Recorded Progress σ α).Settles :=
  ⟨fun _ _ none => ⟨trivial, none, by simp⟩, fun _ => .nil⟩

protected theorem bind {computation : Recorded Progress σ α} {next : α → Recorded Progress σ β}
    (first : computation.Settles) (rest : ∀ kernel, (next (computation.run kernel).value).Settles) :
    (computation >>= next).Settles := by
  constructor
  · intro kernel ledger none
    have left := first.settled kernel ledger none
    rw [record_bind]
    exact left.append ((rest kernel).settled _ _ left.ends)
  · intro kernel
    rw [record_bind, Progress.asked_append]
    exact (first.served kernel).trans ((rest kernel).served _)

theorem notify (notice : Notice) : (Suite.notify notice : Recorded Progress σ Unit).Settles := by
  refine ⟨fun kernel ledger none => ⟨trivial, none, ?_⟩, fun _ => .nil⟩
  intro before other after split
  cases before with
  | nil => exact none
  | cons told rest => cases rest <;> cases split

theorem log (severity : Severity) (text : String) :
    (Suite.log severity text : Recorded Progress σ Unit).Settles := by
  refine ⟨fun kernel ledger none => ⟨trivial, none, ?_⟩, fun _ => .nil⟩
  intro before other after split
  cases before with
  | nil => cases split
  | cons told rest => cases rest <;> cases split

theorem mapRecord {attempt : Attempt σ ε α} (keeps : attempt.Keeps true []) :
    (attempt.run.mapRecord Progress.event).Settles := by
  constructor
  · intro kernel ledger none
    obtain ⟨accepts, settled⟩ := (keeps ledger (by simp)).post kernel
    rw [run_mapRecord]
    refine ⟨?_, ?_, fun before notice after split => ?_⟩
    · rw [Progress.asked_map_event]
      exact accepts
    · rw [Progress.asked_map_event]
      exact settled.trans none
    · change (attempt.run.run kernel).record.map Progress.event = _ at split
      have told : notice ∈ Progress.notices ((attempt.run.run kernel).record.map .event) := by
        rw [split, Progress.notices_append]
        simp [Progress.notices, Progress.notice?]
      simp at told
  · intro kernel
    rw [run_mapRecord, Progress.asked_map_event]
    exact (keeps {} (by simp)).served kernel

end Recorded.Settles

namespace Suite

variable {σ : Type} [Kernel σ]

theorem settles_runScenario (site : Site) {scenario : Scenario σ}
    (keeps : (scenario.run site).Keeps true []) : (runScenario site scenario).Settles :=
  .bind (.notify _) fun _ => .bind (.mapRecord keeps) fun _ => .bind (.log _ _) fun _ =>
    .bind (.notify _) fun _ => .pure _

theorem settles_runScenarios (site : Site) {scenarios : List (Scenario σ)}
    (keeps : ∀ scenario ∈ scenarios, (scenario.run site).Keeps true []) :
    (runScenarios site scenarios).Settles := by
  induction scenarios with
  | nil => exact .pure _
  | cons scenario rest ih =>
      refine .bind (settles_runScenario site (keeps scenario (by simp))) fun kernel => ?_
      cases ((runScenario site scenario).run kernel).value.isFailed with
      | true => exact .bind (.log _ _) fun _ => .pure _
      | false =>
          exact .bind (ih fun later member => keeps later (by simp [member])) fun _ => .pure _

theorem settles_run {suite : Suite σ}
    (keeps : ∀ scenario ∈ suite.scenarios, (scenario.run suite.site).Keeps true []) :
    suite.run.Settles :=
  .bind (.log _ _) fun _ => .bind (settles_runScenarios _ keeps) fun _ =>
    .bind (.notify _) fun _ => .pure _

theorem keeps_of_mem_catalog {plan : Plan} {site : Site} {scenario : Scenario σ}
    (member : scenario ∈ catalog plan) : (scenario.run site).Keeps true [] := by
  rcases List.mem_append.1 member with selected | listing
  · obtain ⟨trigger, _, rfl⟩ := List.mem_map.1 selected
    exact Scenario.keeps_exercise trigger _ _
  · by_cases wanted : plan.enumeration
    · simp only [wanted, if_true, List.mem_singleton] at listing
      subst listing
      exact Scenario.Enumeration.keeps_run _ _ _
    · simp [wanted] at listing

end Suite

theorem Command.settles_serveRun {σ : Type} [Kernel σ] (host : Host) (plan : Plan) :
    (serveRun (σ := σ) host plan).Settles := by
  have prepared : (Suite.standard (σ := σ) host plan).Keeps true [] :=
    (Site.keeps_prepare host plan).bind fun _ => .pure _
  refine .bind (.mapRecord prepared) fun kernel => ?_
  have value : (((Suite.standard host plan).run.mapRecord Progress.event).run kernel).value =
      (fun site => ⟨site, Suite.catalog plan⟩) <$>
        ((Site.prepare host plan).exec kernel).value := by
    show ((Suite.standard host plan).exec kernel).value = _
    rw [Suite.standard, ← map_eq_pure_bind, Attempt.exec_map]
  rw [value]
  cases ((Site.prepare host plan).exec kernel).value with
  | error error => exact .pure _
  | ok site =>
      refine .bind (Suite.settles_run fun scenario member => ?_) fun _ => .pure _
      exact Suite.keeps_of_mem_catalog member

theorem Recorded.Settles.disciplined {α : Type} {computation : Recorded Progress Script α}
    (settles : computation.Settles) (script : Script) :
    Progress.Disciplined (computation.run script).record := by
  have settled := settles.settled script {} rfl
  refine ⟨disciplined_of_accepts (settles.served script) settled.accepts settled.ends, ?_⟩
  intro before notice after split
  have accepts := settled.accepts
  have served := settles.served script
  rw [split, Progress.asked_append] at accepts served
  obtain ⟨_, first, _⟩ := served.exists_between
  exact disciplined_of_accepts first (Ledger.accepts_of_append accepts)
    (settled.notices before notice after split)

/-- Over every script seeding, each scenario, the listing check and whole suites close every number
that they are handed exactly once, before they return, close no other, and work through numbers in
use only, but for the probe of a closed directory. -/
theorem descriptors_disciplined (script : Script) :
    (∀ directory, Disciplined false (Trace.asked ((Fixture.seed directory).exec script).record)) ∧
    (∀ trigger base privileges, Disciplined false
      (Trace.asked ((Scenario.exercise trigger base privileges).exec script).record)) ∧
    (∀ target entry limit, Disciplined true
      (Trace.asked ((Scenario.Enumeration.run target entry limit).exec script).record)) ∧
    ∀ host plan, Progress.Disciplined ((Command.serveRun host plan).run script).record := by
  refine ⟨fun directory => ?_, fun trigger base privileges => ?_, fun target entry limit => ?_,
    fun host plan => ?_⟩
  · exact (Fixture.keeps_seed directory).disciplined script
  · exact (Scenario.keeps_exercise trigger base privileges).disciplined script
  · exact (Scenario.Enumeration.keeps_run target entry limit).disciplined script
  · exact (Command.settles_serveRun host plan).disciplined script

end CopyUp
