import CopyUp.Proofs.Completion

/-!
# Changes wait for looks

Once a change is complete, a scenario changes nothing more until it has looked at the identity
again. Whether a look is due is read off the calls made so far; the steps of each trigger never
come to a change while one is due, and every run does as its steps say, however it ends.
-/

namespace CopyUp

/-! ## What holds before changes -/

/-- Whenever the record changes something, `holds` of the calls before and of the call itself. -/
def BeforeChanges (holds : List Asked → Asked → Prop) (asked : List Asked) : Prop :=
  ∀ before one after, asked = before ++ one :: after → one.call.mutates → holds before one

namespace BeforeChanges

variable {holds weaker : List Asked → Asked → Prop} {first second asked : List Asked}

theorem mono (always : BeforeChanges holds asked)
    (implies : ∀ before one, holds before one → weaker before one) : BeforeChanges weaker asked :=
  fun before one after split mutates => implies _ _ (always before one after split mutates)

theorem of_still (still : ∀ one ∈ asked, one.call.mutates = false) :
    BeforeChanges holds asked := by
  intro before one after split mutates
  rw [still one (by simp [split])] at mutates
  contradiction

theorem single {one : Asked} (initially : holds [] one) : BeforeChanges holds [one] := by
  intro before other after split _
  cases before with
  | nil =>
      cases split
      exact initially
  | cons => simp at split

theorem append (left : BeforeChanges holds first)
    (right : BeforeChanges (fun before => holds (first ++ before)) second) :
    BeforeChanges holds (first ++ second) := by
  intro before one after split mutates
  rcases split_append split with ⟨middle, rfl, rest⟩ | ⟨middle, same, _⟩
  · exact right middle one after rest mutates
  · exact left before one middle same mutates

end BeforeChanges

/-! ## Whether a look is due -/

namespace Asked

/-- Whether a look at the identity is due after one more call. -/
def due (pending : Bool) (one : Asked) : Bool :=
  one.completes || (pending && one.purpose ≠ .identity)

theorem foldl_due_of_incomplete {asked : List Asked}
    (incomplete : ∀ one ∈ asked, one.completes = false) : asked.foldl due false = false := by
  induction asked with
  | nil => rfl
  | cons one rest ih =>
      have ⟨first, later⟩ := List.forall_mem_cons.1 incomplete
      have step : due false one = false := by simp [due, first]
      rw [List.foldl_cons, step]
      exact ih later

/-- Calls that neither complete a change nor look at the identity leave it as it was. -/
theorem foldl_due_of_other {asked : List Asked}
    (other : ∀ one ∈ asked, one.purpose ≠ .change ∧ one.purpose ≠ .identity) (pending : Bool) :
    asked.foldl due pending = pending := by
  induction asked with
  | nil => rfl
  | cons one rest ih =>
      have ⟨first, later⟩ := List.forall_mem_cons.1 other
      have step : due pending one = pending := by simp [due, completes, first]
      rw [List.foldl_cons, step]
      exact ih later

/-- A look stays due until there is one. -/
theorem foldl_due_of_unseen {asked : List Asked}
    (unseen : ∀ one ∈ asked, one.purpose ≠ .identity) : asked.foldl due true = true := by
  induction asked with
  | nil => rfl
  | cons one rest ih =>
      have ⟨first, later⟩ := List.forall_mem_cons.1 unseen
      have step : due true one = true := by simp [due, first]
      rw [List.foldl_cons, step]
      exact ih later

/-- Every complete change was followed by a look at the identity. -/
def Seen (asked : List Asked) : Prop :=
  ∀ before one after, asked = before ++ one :: after → one.completes →
    ∃ look ∈ after, look.purpose = .identity

theorem seen_of_foldl_due {asked : List Asked} {pending : Bool}
    (seen : asked.foldl due pending = false) : Seen asked := by
  intro before one after split completes
  apply Classical.byContradiction
  intro never
  have unseen : ∀ look ∈ after, look.purpose ≠ .identity :=
    fun look member looks => never ⟨look, member, looks⟩
  have step : due (before.foldl due pending) one = true := by simp [due, completes]
  rw [split, List.foldl_append, List.foldl_cons, step, foldl_due_of_unseen unseen] at seen
  contradiction

end Asked

/-- Nothing is changed while a look is due, and if all works a look is due afterwards or not. -/
structure Patient {ε : Type} (pending after : Bool) (result : Except ε Unit)
    (asked : List Asked) : Prop where
  waits : BeforeChanges (fun before _ => before.foldl Asked.due pending = false) asked
  leaves : result = .ok () → asked.foldl Asked.due pending = after

namespace Patient

variable {ε δ : Type} {pending between after : Bool} {result : Except ε Unit}
  {first second asked : List Asked}

theorem append (left : Patient pending between (.ok () : Except δ Unit) first)
    (right : Patient between after result second) :
    Patient pending after result (first ++ second) := by
  have reached := left.leaves rfl
  constructor
  · apply left.waits.append
    refine right.waits.mono fun before _ calm => ?_
    rw [List.foldl_append, reached]
    exact calm
  · intro worked
    rw [List.foldl_append, reached]
    exact right.leaves worked

theorem congr {other : Except δ Unit} (patient : Patient pending after result asked)
    (same : other = .ok () → result = .ok ()) : Patient pending after other asked :=
  ⟨patient.waits, fun worked => patient.leaves (same worked)⟩

theorem of_still (still : ∀ one ∈ asked, one.call.mutates = false)
    (leaves : result = .ok () → asked.foldl Asked.due pending = after) :
    Patient pending after result asked :=
  ⟨.of_still still, leaves⟩

theorem append_other (patient : Patient pending after result asked)
    (still : ∀ one ∈ second, one.call.mutates = false)
    (other : ∀ one ∈ second, one.purpose ≠ .change ∧ one.purpose ≠ .identity) :
    Patient pending after result (asked ++ second) := by
  refine ⟨patient.waits.append (.of_still still), fun worked => ?_⟩
  rw [List.foldl_append, Asked.foldl_due_of_other other]
  exact patient.leaves worked

/-- Right after a look none is due. -/
theorem of_look {one : Asked} {rest : List Asked}
    (still : ∀ other ∈ one :: rest, other.call.mutates = false)
    (looks : one.purpose = .identity)
    (incomplete : ∀ other ∈ one :: rest, other.completes = false) :
    Patient pending false result (one :: rest) := by
  have step : Asked.due pending one = false := by simp [Asked.due, Asked.completes, looks]
  refine .of_still still fun _ => ?_
  rw [List.foldl_cons, step]
  exact Asked.foldl_due_of_incomplete (List.forall_mem_cons.1 incomplete).2

/-- Calls that only open or close files do not count. -/
theorem of_other (still : ∀ one ∈ asked, one.call.mutates = false)
    (other : ∀ one ∈ asked, one.purpose ≠ .change ∧ one.purpose ≠ .identity) :
    Patient pending pending result asked :=
  .of_still still fun _ => Asked.foldl_due_of_other other pending

theorem of_incomplete (incomplete : ∀ one ∈ asked, one.completes = false) :
    Patient false false result asked := by
  refine ⟨?_, fun _ => Asked.foldl_due_of_incomplete incomplete⟩
  intro before one later split _
  apply Asked.foldl_due_of_incomplete
  intro earlier member
  exact incomplete earlier (by simp [split, member])

theorem of_failed (incomplete : ∀ one ∈ asked, one.completes = false)
    (failed : result ≠ .ok ()) : Patient false after result asked :=
  have patient : Patient false false result asked := .of_incomplete incomplete
  ⟨patient.waits, fun worked => absurd worked failed⟩

theorem of_finishes {last : Asked} (finishes : Finishes asked last) :
    Patient false true result asked := by
  have ⟨earlier, split, idle⟩ := finishes.idleBefore
  have before : Patient false false (.ok () : Except ε Unit) earlier :=
    .of_incomplete fun one member => (idle one member).1
  have finish : Patient false true result [last] :=
    ⟨.single rfl, fun _ => by simp [Asked.due, finishes.completes]⟩
  rw [split]
  exact before.append finish

end Patient

/-! ## Changes that fail -/

theorem Answered.incomplete {purpose : Purpose} {call : Call} {errno : Errno}
    {asked : List Asked} (answered : Answered purpose call (.error errno) asked) :
    ∀ one ∈ asked, one.completes = false := by
  intro one member
  have ⟨interrupted, split, alike⟩ := answered.exists_eq_append
  rw [split] at member
  rcases List.mem_append.1 member with before | last
  · rw [alike one before]
    exact idle_of_interrupted.1
  · rw [List.mem_singleton.1 last]
    exact idle_of_interrupted.1

/-- A write that goes wrong completes nothing. -/
theorem FileSystem.Written.incomplete {fd : Descriptor} {place : Placement} {bytes : Bytes}
    {result : Except IoError Unit} {asked : List Asked}
    (written : Written .change fd place bytes result asked) (failed : result ≠ .ok ()) :
    ∀ one ∈ asked, one.completes = false := by
  induction written with
  | done => contradiction
  | refused _ offered =>
      cases offered with
      | next answered | «at» answered => exact answered.incomplete
  | stuck some offered =>
      rcases offered.completion with ⟨whole, _⟩ | ⟨_, idle⟩
      · exact absurd (List.length_eq_zero_iff.1 whole.symm) some
      · exact fun one member => (idle one member).1
  | took _ _ offered later ih =>
      rcases offered.completion with ⟨whole, _⟩ | ⟨_, idle⟩
      · rw [whole, List.drop_length] at later
        exact absurd later.of_nil.1 failed
      · exact List.forall_mem_append.2 ⟨fun one member => (idle one member).1, ih failed⟩

namespace Scenario

theorem OpenChange.Applied.incomplete {owner : Owner} {fd : Descriptor} {change : OpenChange}
    {error : IoError} {asked : List Asked}
    (applied : change.Applied owner fd (.error error) asked) :
    ∀ one ∈ asked, one.completes = false := by
  generalize failed : (Except.error error : Except IoError Unit) = result at applied
  cases applied with
  | wrote written | overwrote written => exact written.incomplete (by simp [← failed])
  | @called _ _ reply _ _ answered =>
      cases reply with
      | ok => contradiction
      | error => exact answered.incomplete

/-! ## Steps -/

def OpenStep.await (pending : Bool) : OpenStep → Option Bool
  | .change made => if pending then none else some made.calls
  | .stable _ => some false

/-- Whether a look is due after a step, unless the step would change something too early. -/
def Step.await (pending : Bool) : Step → Option Bool
  | .removeStale _ | .cleanUp _ => if pending then none else some false
  | .change .. => if pending then none else some true
  | .check .stable .. | .check .stableLink .. | .check .stableAll .. => some false
  | .check .. => some pending
  | .opened _ steps => steps.foldlM OpenStep.await pending

/-- No trigger changes anything while a look is due. -/
theorem await_steps (trigger : Trigger) :
    ∃ after, (steps trigger).foldlM Step.await false = some after := by
  apply Option.isSome_iff_exists.1
  cases trigger <;> decide

theorem patient_of_inTurn {ε α : Type} {does : α → Except ε Unit → List Asked → Prop}
    {await : Bool → α → Option Bool}
    (each : ∀ item pending after result asked, await pending item = some after →
      does item result asked → Patient pending after result asked)
    {items : List α} {result : Except ε Unit} {asked : List Asked}
    (inTurn : InTurn does items result asked) {pending after : Bool}
    (awaited : items.foldlM await pending = some after) :
    Patient pending after result asked := by
  induction inTurn generalizing pending with
  | done =>
      cases awaited
      exact .of_other (by simp) (by simp)
  | stops failed =>
      rw [List.foldlM_cons] at awaited
      have ⟨between, first, _⟩ := Option.bind_eq_some_iff.1 awaited
      exact ⟨(each _ _ _ _ _ first failed).waits, nofun⟩
  | goes worked _ ih =>
      rw [List.foldlM_cons] at awaited
      have ⟨between, first, rest⟩ := Option.bind_eq_some_iff.1 awaited
      exact (each _ _ _ _ _ first worked).append (ih rest)

theorem OpenChange.Applied.patient {owner : Owner} {fd : Descriptor} {change : OpenChange}
    {result : Except IoError Unit} {asked : List Asked}
    (applied : change.Applied owner fd result asked) :
    Patient false change.calls result asked := by
  cases result with
  | error => exact .of_failed applied.incomplete nofun
  | ok =>
      rcases applied.finishes with ⟨none, rfl⟩ | ⟨some, last, finishes, _⟩
      · rw [none]
        exact .of_incomplete (by simp)
      · rw [some]
        exact .of_finishes finishes

theorem OpenPerformed.patient {scene : Scene} {fd : Descriptor} {step : OpenStep}
    {pending after : Bool} {result : Except Interrupt Unit} {asked : List Asked}
    (performed : OpenPerformed scene fd step result asked)
    (awaited : step.await pending = some after) : Patient pending after result asked := by
  cases performed with
  | change applied =>
      cases pending with
      | true => contradiction
      | false =>
          cases awaited
          exact applied.patient.congr judged_eq_ok_iff.1
  | stable =>
      cases awaited
      exact .of_look (List.forall_mem_singleton.2 rfl) rfl (List.forall_mem_singleton.2 rfl)

/-- Opening a file neither changes anything nor looks at an identity. -/
theorem other_of_opening {path : Path} {flags : OpenFlags} {reply : Except Errno Descriptor}
    {asked : List Asked} (answered : Answered .acquire (.openFile path flags) reply asked) :
    ∀ one ∈ asked, one.call.mutates = false ∧ one.purpose ≠ .change ∧ one.purpose ≠ .identity := by
  intro one member
  have ⟨purpose, call⟩ := answered.same member
  rw [purpose, call]
  exact ⟨rfl, nofun, nofun⟩

/-- A check that looks at the identity leaves no look due, the others leave it as it was. -/
theorem Checked.patient {snapshot : Snapshot} {path : Path} {after : String} {check : Check}
    {file : Role} {pending due : Bool} {result : Except Failure Unit} {asked : List Asked}
    (checked : Checked snapshot path after check result asked)
    (awaited : (Step.check check file after).await pending = some due) :
    Patient pending due result asked := by
  have still : ∀ one ∈ asked, one.call.mutates = false := fun one member =>
    (checked.still one member).2
  have idle : ∀ one ∈ asked, one.completes = false := fun one member =>
    (checked.idle one member).1
  cases checked with
  | absent | linkCount =>
      cases awaited
      exact .of_other still (by simp)
  | stable | stableLink | notByPath | notByLink | notOpened | byHandle =>
      cases awaited
      exact .of_look still rfl idle

theorem Performed.patient {scene : Scene} {step : Step} {pending after : Bool}
    {result : Except Interrupt Unit} {asked : List Asked}
    (performed : Performed scene step result asked)
    (awaited : step.await pending = some after) : Patient pending after result asked := by
  have lone : ∀ {one : Asked} {result : Except Interrupt Unit}, one.purpose ≠ .change →
      (if pending then none else some false) = some after → Patient pending after result [one] := by
    intro one result other awaited
    cases pending with
    | true => contradiction
    | false =>
        cases awaited
        exact .of_incomplete (List.forall_mem_singleton.2 (by simp [Asked.completes, other]))
  cases performed with
  | removeStale | cleanUp => exact lone (by simp) awaited
  | @change made file reply _ answered =>
      cases pending with
      | true => contradiction
      | false =>
          cases awaited
          cases reply with
          | ok value => exact .of_finishes (PathChange.finishes answered)
          | error errno => exact .of_failed answered.incomplete (by simp [judged_eq_ok_iff])
  | check checked => exact (checked.patient awaited).congr Attempt.mapError_eq_ok_iff.1
  | notOpened answered =>
      have opening := other_of_opening answered
      exact ⟨.of_still fun one member => (opening one member).1, by simp⟩
  | opened answered inTurn =>
      have opening := other_of_opening answered
      have opened : Patient pending pending (.ok () : Except Interrupt Unit) _ :=
        .of_other (fun one member => (opening one member).1) fun one member =>
          (opening one member).2
      have used := patient_of_inTurn (fun _ _ _ _ _ awaited done => done.patient awaited) inTurn
        awaited
      exact (opened.append used).append_other (List.forall_mem_singleton.2 rfl) (by simp)

/-- Before every change of a run, all complete changes were looked at. -/
theorem Exercised.seen {trigger : Trigger} {base : Path} {privileges : Privileges}
    {result : Except Interrupt Unit} {asked : List Asked}
    (exercised : Exercised trigger base privileges result asked) :
    BeforeChanges (fun before _ => Asked.Seen before) asked := by
  cases exercised with
  | unresolved resolved => exact .of_still resolved.still
  | ownerless resolved =>
      exact .of_still (resolved.still_asking (.inr ⟨_, rfl⟩))
  | @steps snapshot owner _ before asking more resolved known inTurn =>
      have ⟨after, awaited⟩ := await_steps trigger
      have first : Patient false false (.ok () : Except Interrupt Unit) before := by
        refine .of_still resolved.still fun _ => ?_
        cases resolved
        simp [Asked.due, Asked.completes]
      have second : Patient false false (.ok () : Except Interrupt Unit) asking := by
        rcases known with rfl | ⟨reply, rfl, _⟩
        · exact .of_other (by simp) (by simp)
        · exact .of_other (List.forall_mem_singleton.2 rfl) (by simp)
      have stepwise := patient_of_inTurn (fun _ _ _ _ _ awaited done => done.patient awaited)
        inTurn awaited
      have whole := (first.append second).append stepwise
      exact whole.waits.mono fun _ _ => Asked.seen_of_foldl_due

end Scenario

end CopyUp
