import CopyUp.Proofs.Composition
import CopyUp.Proofs.Restraint
import CopyUp.Proofs.Turns

/-!
# Denials

A scenario that is skipped for want of permission says which change was not permitted, and it says
so on the kernel's word alone: the change is the last call before the notice that is no close, and
it was answered so.
-/

namespace CopyUp

/-- An error comes from the first part or from what follows it. -/
theorem Attempt.error_of_bind {σ ε α β : Type} {attempt : Attempt σ ε α}
    {next : α → Attempt σ ε β} {kernel : σ} {error : ε}
    (failed : ((attempt >>= next).exec kernel).value = .error error) :
    (attempt.exec kernel).value = .error error ∨
      ∃ value after, ((next value).exec after).value = .error error := by
  rw [exec_bind] at failed
  cases ran : attempt.exec kernel with
  | mk result after trace =>
      rw [ran] at failed
      cases result with
      | error =>
          cases failed
          exact .inl rfl
      | ok value => exact .inr ⟨value, after, failed⟩

namespace Asked

theorem deciding?_append (first second : List Asked) :
    deciding? (first ++ second) = (deciding? second).or (deciding? first) := by
  rw [deciding?, List.filter_append, List.getLast?_append]
  rfl

theorem deciding?_append_close (asked : List Asked) (fd : Descriptor)
    (closed : Except Errno Unit) :
    deciding? (asked ++ [⟨.release, ⟨.close fd, closed⟩⟩]) = deciding? asked :=
  deciding?_append ..

/-- The last call that is no close is a change of this name that was not permitted. -/
def Denies (operation : String) (asked : List Asked) : Prop :=
  ∃ last, deciding? asked = some last ∧ last.purpose = .change ∧ last.call.name = operation ∧
    last.errno? = some .eperm

namespace Denies

variable {operation : String} {first second : List Asked}

theorem prepend (denies : Denies operation second) (first : List Asked) :
    Denies operation (first ++ second) := by
  have ⟨last, deciding, told⟩ := denies
  refine ⟨last, ?_, told⟩
  rw [deciding?_append, deciding]
  rfl

theorem close (denies : Denies operation first) (fd : Descriptor) (closed : Except Errno Unit) :
    Denies operation (first ++ [⟨.release, ⟨.close fd, closed⟩⟩]) := by
  have ⟨last, deciding, told⟩ := denies
  exact ⟨last, (deciding?_append_close ..).trans deciding, told⟩

end Denies

end Asked

open Asked (Denies)

theorem InTurn.denies {ε α : Type} {does : α → Except ε Unit → List Asked → Prop}
    {items : List α} {error : ε} {asked : List Asked} {operation : String}
    (inTurn : InTurn does items (.error error) asked)
    (stops : ∀ item asked, does item (.error error) asked → Denies operation asked) :
    Denies operation asked := by
  generalize failed : (Except.error error : Except ε Unit) = result at inTurn
  induction inTurn with
  | done => contradiction
  | stops stopped =>
      cases failed
      exact stops _ _ stopped
  | goes _ _ ih => exact (ih failed).prepend _

/-- A denial stands for a missing permission, and only where denials are tolerated. -/
theorem Effect.eq_of_denied {tolerates : Bool} {result : Except IoError Unit} {errno : Errno}
    (denied : Effect.ofResult tolerates result = .denied errno) :
    result = .error (.os .eperm) ∧ errno = .eperm ∧ tolerates := by
  unfold Effect.ofResult at denied
  split at denied
  case h_1 | h_3 => contradiction
  case h_2 told =>
      by_cases lacking : told = .enosys ∨ told = .eopnotsupp
      · rw [if_pos lacking] at denied
        contradiction
      rw [if_neg lacking] at denied
      by_cases tolerated : told = .eperm ∧ tolerates
      · rw [if_pos tolerated] at denied
        cases denied
        exact ⟨by rw [tolerated.1], tolerated⟩
      · rw [if_neg tolerated] at denied
        contradiction

namespace Scenario

variable {operation : String} {errno : Errno} {privileges : Privileges} {asked : List Asked}

/-- A change that is denied was broken off by the call that decides. -/
theorem denies_of_judged {held : Privileges} {trigger : Trigger} {made : String}
    {source : IoError} (first : Identity)
    (failed : judged held trigger made (.error source) =
      .error (.skip (.denied operation errno privileges)))
    (ends : Ends (some first) none (fun _ last => last.BreaksOff made source) asked) :
    Denies operation asked := by
  unfold judged at failed
  cases effect : Effect.ofResult trigger.toleratesDenial (.error source) with
  | applied | unsupported | failed =>
      rw [effect] at failed
      cases failed
  | denied told =>
      rw [effect] at failed
      cases failed
      cases (Effect.eq_of_denied effect).1
      have ⟨_, last, deciding, breaks⟩ := ends.deciding
      cases breaks.source with
      | inl refused =>
          have ⟨_, same, answer⟩ := refused
          cases same
          exact ⟨last, deciding, breaks.purpose, breaks.name, answer⟩
      | inr nothing => cases nothing.1

theorem OpenPerformed.denies {scene : Scene} {fd : Descriptor} {step : OpenStep}
    (performed : OpenPerformed scene fd step
      (.error (.skip (.denied operation errno privileges))) asked) : Denies operation asked := by
  generalize failed : (Except.error _ : Except Interrupt Unit) = result at performed
  cases performed with
  | @change _ result _ applied =>
      cases result with
      | ok => cases failed
      | error source =>
          exact denies_of_judged scene.snapshot.expected failed.symm applied.ends
  | stable =>
      have ⟨_, _, impossible⟩ := Attempt.mapError_eq_error_iff.1 failed.symm
      contradiction

/-- Of all steps only a change can be denied. -/
theorem Performed.denies {scene : Scene} {step : Step}
    (performed : Performed scene step (.error (.skip (.denied operation errno privileges)))
      asked) : Denies operation asked := by
  generalize failed : (Except.error _ : Except Interrupt Unit) = result at performed
  cases performed with
  | removeStale | check | cleanUp =>
      have ⟨_, _, impossible⟩ := Attempt.mapError_eq_error_iff.1 failed.symm
      contradiction
  | @change made file reply _ answered =>
      cases reply with
      | ok => cases failed
      | error errno =>
          exact denies_of_judged scene.snapshot.expected failed.symm (PathChange.ends answered)
  | notOpened => cases failed
  | opened answered inTurn =>
      have used : Denies operation _ := (failed ▸ inTurn).denies fun _ _ stopped => stopped.denies
      exact (used.prepend _).close _ _

theorem Exercised.denies {trigger : Trigger} {base : Path} {held : Privileges}
    (exercised : Exercised trigger base held
      (.error (.skip (.denied operation errno privileges))) asked) : Denies operation asked := by
  cases exercised with
  | unresolved resolved => cases resolved
  | steps _ _ inTurn =>
      exact (inTurn.denies fun _ _ stopped => stopped.denies).prepend _

variable {σ : Type} [Kernel σ]

theorem exercise_denies {trigger : Trigger} {base : Path} {held : Privileges} {kernel : σ}
    (denied : ((exercise trigger base held).exec kernel).value =
      .error (.skip (.denied operation errno privileges))) :
    Denies operation (Trace.asked ((exercise trigger base held).exec kernel).record) := by
  by_cases nul : base.HasNul
  · have ⟨failure, refused⟩ := exec_exercise_of_hasNul trigger held nul kernel
    rw [refused] at denied
    cases denied
  · have exercised := (ensures_exercised trigger held nul).post kernel
    rw [denied] at exercised
    exact exercised.denies

omit [Kernel σ] in
theorem not_must_skip {α : Type} {attempt : Attempt σ Failure α} {kernel : σ}
    {reason : SkipReason} : ((Attempt.must attempt).exec kernel).value ≠ .error (.skip reason) := by
  unfold Attempt.must
  rw [Attempt.exec_explain]
  cases (attempt.exec kernel).value <;> nofun

/-- The listing check is skipped only for want of its entry. -/
theorem Enumeration.reason_of_run {target : Path} {entry : String}
    {limit : Except Errno UInt64} {kernel : σ} {reason : SkipReason}
    (skipped : ((Enumeration.run target entry limit).exec kernel).value = .error (.skip reason)) :
    reason = .entryMissing entry target := by
  unfold Enumeration.run at skipped
  cases Attempt.error_of_bind skipped with
  | inl looked => exact absurd looked not_must_skip
  | inr seen =>
      have ⟨found, after, ended⟩ := seen
      cases found with
      | some => exact absurd ended not_must_skip
      | none =>
          rw [Attempt.exec_bind, Attempt.exec_log] at ended
          cases ended
          rfl

end Scenario

/-! ## Notices -/

theorem Outcome.ofResult_eq_skipped_iff {result : Except Interrupt Unit} {reason : SkipReason} :
    Outcome.ofResult result = .skipped reason ↔ result = .error (.skip reason) := by
  cases result with
  | ok => simp [Outcome.ofResult]
  | error interrupt => cases interrupt <;> simp [Outcome.ofResult]

namespace Progress

/-- Whenever a denial is noticed, the call that was denied is the last before the notice that is no
close. -/
def DenialsTold (record : List Progress) : Prop :=
  ∀ before after name operation errno privileges,
    record = before ++
      .notice (.finished name (.skipped (.denied operation errno privileges))) :: after →
    Denies operation (asked before)

namespace DenialsTold

protected theorem append {first second : List Progress} (left : DenialsTold first)
    (right : DenialsTold second) : DenialsTold (first ++ second) := by
  intro before after name operation errno privileges split
  cases split_append split with
  | inl behind =>
      have ⟨between, same, rest⟩ := behind
      rw [same, asked_append]
      exact (right _ _ _ _ _ _ rest).prepend _
  | inr within =>
      have ⟨between, same, _⟩ := within
      exact left _ _ _ _ _ _ same

theorem of_not_finished {record : List Progress}
    (unfinished : ∀ name outcome, .finished name outcome ∉ notices record) :
    DenialsTold record := by
  intro before after name operation errno privileges split
  apply absurd _ (unfinished name (.skipped (.denied operation errno privileges)))
  rw [split, notices_append]
  exact List.mem_append_right _ List.mem_cons_self

/-- The notice that ends a record is told by the calls before it. -/
theorem concat {front : List Progress} {name : String} {outcome : Outcome}
    (first : ∀ name outcome, .finished name outcome ∉ notices front)
    (told : ∀ operation errno privileges,
      outcome = .skipped (.denied operation errno privileges) → Denies operation (asked front)) :
    DenialsTold (front ++ [.notice (.finished name outcome)]) := by
  intro before after label operation errno privileges split
  cases split_append split with
  | inl behind =>
      have ⟨between, same, rest⟩ := behind
      have ⟨nothing, ended, _⟩ := split_singleton rest
      cases ended
      rw [same, nothing, List.append_nil]
      exact told _ _ _ rfl
  | inr within =>
      have ⟨between, same, _⟩ := within
      exact of_not_finished first before between label operation errno privileges same

theorem flatMap {α : Type} {items : List α} {told : α → List Progress}
    (each : ∀ item ∈ items, DenialsTold (told item)) : DenialsTold (items.flatMap told) := by
  induction items with
  | nil => exact .of_not_finished fun _ _ => List.not_mem_nil
  | cons item rest ih =>
      rw [List.flatMap_cons]
      apply (each item List.mem_cons_self).append
      exact ih fun later member => each later (List.mem_cons_of_mem _ member)

end DenialsTold

end Progress

namespace Suite

variable {σ : Type}

theorem Turn.denialsTold {turn : Turn σ}
    (denies : ∀ operation errno privileges,
      turn.outcome = .skipped (.denied operation errno privileges) →
        Denies operation turn.trace.asked) :
    Progress.DenialsTold turn.progress := by
  let front : List Progress := .notice (.started turn.name) :: turn.trace.map .event ++
    [.event (.log ⟨outcomeSeverity turn.outcome, s!"{turn.name}: {turn.outcome.text}"⟩)]
  have asks : Progress.asked front = turn.trace.asked := by
    rw [← List.append_nil turn.trace.asked, ← Progress.asked_map_event]
    exact Progress.asked_append ..
  have split : turn.progress = front ++ [.notice (.finished turn.name turn.outcome)] := by
    simp [progress, front]
  rw [split]
  apply Progress.DenialsTold.concat
  · simp [front, Progress.notices, Progress.notice?]
  · rw [asks]
    exact denies

theorem exists_of_mem_turns {site : Site} {scenarios : List (Scenario σ)} {kernel : σ}
    {taken : Turn σ} (member : taken ∈ turns site scenarios kernel) :
    ∃ scenario ∈ scenarios, ∃ between, taken = turn site scenario between := by
  induction scenarios generalizing kernel with
  | nil => contradiction
  | cons scenario rest ih =>
      cases List.mem_cons.1 member with
      | inl first => exact ⟨scenario, List.mem_cons_self, kernel, first⟩
      | inr later =>
          have ⟨other, among, same⟩ := ih later
          exact ⟨other, List.mem_cons_of_mem _ among, same⟩

theorem mem_of_mem_throughFailure {taken : List (Turn σ)} {turn : Turn σ}
    (member : turn ∈ throughFailure taken) : turn ∈ taken := by
  have ⟨left, split, _⟩ := exists_throughFailure_append taken
  rw [split]
  exact List.mem_append_left left member

variable [Kernel σ]

/-- Whatever scenario of a plan is denied, it has the kernel's word for it. -/
theorem denies_of_mem_catalog {plan : Plan} {scenario : Scenario σ}
    (member : scenario ∈ catalog plan) {site : Site} {kernel : σ} {operation : String}
    {errno : Errno} {privileges : Privileges}
    (denied : (turn site scenario kernel).outcome =
      .skipped (.denied operation errno privileges)) :
    Denies operation (turn site scenario kernel).trace.asked := by
  have interrupted := Outcome.ofResult_eq_skipped_iff.1 denied
  cases List.mem_append.1 member with
  | inl triggered =>
      have ⟨trigger, _, same⟩ := List.mem_map.1 triggered
      cases same
      exact Scenario.exercise_denies interrupted
  | inr listed =>
      by_cases wanted : plan.enumeration
      · rw [if_pos wanted] at listed
        cases List.mem_singleton.1 listed
        cases Scenario.Enumeration.reason_of_run interrupted
      · rw [if_neg wanted] at listed
        contradiction

theorem denialsTold_of_mem_turns {site : Site} {plan : Plan} {kernel : σ} {taken : Turn σ}
    (member : taken ∈ turns site (catalog plan) kernel) :
    Progress.DenialsTold taken.progress := by
  have ⟨scenario, planned, between, same⟩ := exists_of_mem_turns member
  rw [same]
  exact Turn.denialsTold fun _ _ _ => denies_of_mem_catalog planned

theorem denialsTold_run (site : Site) (plan : Plan) (kernel : σ) :
    Progress.DenialsTold ((Suite.mk site (catalog plan)).run.run kernel).record := by
  rw [run_run, ← List.singleton_append]
  apply Progress.DenialsTold.append
    (.of_not_finished (by simp [Progress.notices, Progress.notice?]))
  apply Progress.DenialsTold.append _
    (.of_not_finished (by simp [Progress.notices, Progress.notice?]))
  apply Progress.DenialsTold.append
  · apply Progress.DenialsTold.flatMap
    intro taken member
    exact denialsTold_of_mem_turns (mem_of_mem_throughFailure member)
  · exact .of_not_finished (by simp [notices_farewell])

theorem denialsTold_conduct (host : Host) (plan : Plan) (kernel : σ) :
    Progress.DenialsTold ((conduct host plan).run kernel).record := by
  rw [conduct_eq, Recorded.record_bind]
  apply Progress.DenialsTold.append
  · apply Progress.DenialsTold.of_not_finished
    rw [Recorded.run_mapRecord, Progress.notices_map_event]
    exact fun _ _ => List.not_mem_nil
  · cases ((Recorded.mapRecord Progress.event (Site.prepare host plan).run).run kernel).value with
    | error => exact .of_not_finished fun _ _ => List.not_mem_nil
    | ok site =>
        rw [Recorded.run_map]
        exact denialsTold_run site plan _

end Suite

end CopyUp
