import CopyUp.Proofs.Patience
import CopyUp.Proofs.Program

/-!
# Scenarios change nothing ahead of their checks

Over every kernel, and however it ends, a run makes a beginning of its trigger's program and makes
each change only if all calls before were faultless, all complete changes were looked at, and the
file that it works through is the fixture, still open. Nothing is changed at all unless two looks at
the fixture agreed first.
-/

namespace CopyUp

/-- The file is open under this number: it was opened so, and the number was not closed since. -/
def OpenAt (path : Path) (fd : Descriptor) (before : List Asked) : Prop :=
  ∃ earlier flags between,
    before = earlier ++ ⟨.acquire, ⟨.openFile path flags, .ok fd⟩⟩ :: between ∧
      ∀ other ∈ between, other.closed? ≠ some fd

/-- If the call works through an open file, this is the file. -/
def Through (path : Path) (before : List Asked) (one : Asked) : Prop :=
  ∀ fd, one.call.descriptor? = some fd → OpenAt path fd before

theorem Through.prepend {path : Path} {before : List Asked} {one : Asked}
    (through : Through path before one) (first : List Asked) :
    Through path (first ++ before) one := by
  intro fd works
  have ⟨earlier, flags, between, split, kept⟩ := through fd works
  exact ⟨first ++ earlier, flags, between, by rw [split, List.append_assoc], kept⟩

theorem BeforeChanges.of_nameless {path : Path} {asked : List Asked}
    (nameless : ∀ one ∈ asked, one.call.descriptor? = none) :
    BeforeChanges (Through path) asked := by
  intro before one after split _ fd works
  rw [nameless one (by simp [split])] at works
  contradiction

theorem Asked.closed?_of_mutates {one : Asked} (mutates : one.call.mutates) :
    one.closed? = none := by
  unfold closed?
  split
  case h_1 same =>
      rw [same] at mutates
      contradiction
  case h_2 => rfl

namespace Scenario

/-! ## Changes through open files -/

theorem OpenChange.descriptor?_of_call? {owner : Owner} {fd : Descriptor} {change : OpenChange}
    {call : Call} (made : change.call? owner fd = some call) : call.descriptor? = some fd := by
  cases change <;> cases made <;> rfl

theorem OpenChange.Applied.descriptor? {owner : Owner} {fd : Descriptor} {change : OpenChange}
    {result : Except IoError Unit} {asked : List Asked}
    (applied : change.Applied owner fd result asked) :
    ∀ one ∈ asked, one.call.descriptor? = some fd := by
  intro one member
  cases applied with
  | wrote written | overwrote written =>
      rcases (written.same member).2 with ⟨part, call⟩ | ⟨part, offset, call⟩ <;> rw [call] <;> rfl
  | called made answered =>
      rw [(answered.same member).2]
      exact OpenChange.descriptor?_of_call? made

/-- What is done with an open file is done through its number and does not close it. -/
theorem OpenPerformed.keeps_open {scene : Scene} {fd : Descriptor} {step : OpenStep}
    {result : Except Interrupt Unit} {asked : List Asked}
    (performed : OpenPerformed scene fd step result asked) :
    ∀ one ∈ asked, one.call.descriptor? = some fd ∧ one.closed? = none := by
  cases performed with
  | change applied =>
      intro one member
      exact ⟨applied.descriptor? one member,
        Asked.closed?_of_mutates (applied.name_eq one member).1⟩
  | stable => exact List.forall_mem_singleton.2 ⟨rfl, rfl⟩

theorem beforeChanges_of_inTurn {ε α : Type} {does : α → Except ε Unit → List Asked → Prop}
    {holds : List Asked → Asked → Prop}
    (stays : ∀ first before one, holds before one → holds (first ++ before) one)
    (each : ∀ item result asked, does item result asked → BeforeChanges holds asked)
    {items : List α} {result : Except ε Unit} {asked : List Asked}
    (inTurn : InTurn does items result asked) : BeforeChanges holds asked := by
  induction inTurn with
  | done => exact .of_still (by simp)
  | stops failed => exact each _ _ _ failed
  | goes worked _ ih =>
      exact (each _ _ _ worked).append (ih.mono fun before one => stays _ before one)

theorem Performed.through {scene : Scene} {step : Step} {result : Except Interrupt Unit}
    {asked : List Asked} (performed : Performed scene step result asked) :
    BeforeChanges (Through (scene.path .fixture)) asked := by
  cases performed with
  | removeStale | cleanUp => exact .of_nameless (List.forall_mem_singleton.2 rfl)
  | @change made _ _ _ answered =>
      apply BeforeChanges.of_nameless
      intro one member
      rw [(answered.same member).2]
      exact made.descriptor?_call ..
  | check checked => exact .of_still fun one member => (checked.still one member).2
  | notOpened answered => exact .of_still (still_of_opening answered)
  | @opened access _ fd _ _ _ used answered inTurn =>
      have ⟨interrupted, opening, _⟩ := answered.exists_eq_append
      have keeps := inTurn.forall_mem fun _ _ _ _ done => done.keeps_open
      refine .append (.append (.of_still (still_of_opening answered)) ?_)
        (.of_still (List.forall_mem_singleton.2 rfl))
      intro before one after split _ number works
      have same : one.call.descriptor? = some fd := (keeps one (by simp [split])).1
      have number_eq : fd = number := Option.some.inj (same.symm.trans works)
      refine ⟨interrupted, access.flags, before, by simp [opening, number_eq], ?_⟩
      intro other member
      simp [(keeps other (by simp [split, member])).2]

/-- A run works through no file but its fixture, and only while it is open. -/
theorem Exercised.through {trigger : Trigger} {base : Path} {privileges : Privileges}
    {result : Except Interrupt Unit} {asked : List Asked}
    (exercised : Exercised trigger base privileges result asked) :
    BeforeChanges (Through (base.join trigger.fixture)) asked := by
  cases exercised with
  | unresolved resolved => exact .of_still resolved.still
  | ownerless resolved =>
      exact .of_still (resolved.still_asking (.inr ⟨_, rfl⟩))
  | steps resolved known inTurn =>
      have stepwise := beforeChanges_of_inTurn (fun first _ _ through => through.prepend first)
        (fun _ _ _ done => Performed.through done) inTurn
      have still := resolved.still_asking (known.imp_right fun ⟨reply, same, _⟩ => ⟨reply, same⟩)
      exact (BeforeChanges.of_still still).append
        (stepwise.mono fun _ _ through => through.prepend _)

/-! ## Faultless calls before changes -/

/-- Before every change of a run all calls were faultless. -/
theorem Exercised.faultless_before {trigger : Trigger} {base : Path} {privileges : Privileges}
    {result : Except Interrupt Unit} {asked : List Asked}
    (exercised : Exercised trigger base privileges result asked) :
    BeforeChanges (fun before _ => ∀ earlier ∈ before, earlier.purpose ≠ .release →
      earlier.Faultless (Asked.firstIdentity? asked)) asked := by
  cases result with
  | ok value =>
      have faultless := exercised.ok_iff_faultless.1 ⟨value, rfl⟩
      intro before one after split _ earlier member
      exact faultless earlier (by simp [split, member])
  | error interrupt =>
      rcases exercised.ends with ⟨_, gone⟩ | ends
      · apply BeforeChanges.of_still
        rw [gone]
        exact List.forall_mem_singleton.2 rfl
      · generalize Asked.firstIdentity? asked = first at ends
        cases ends with
        | @intro worked closes last faultless _ closing _ =>
            have closed : ∀ one ∈ closes, one.call.mutates = false := by
              intro one member
              have ⟨_, fd, call⟩ := closing one member
              rw [call]
              rfl
            rw [← List.singleton_append, ← List.append_assoc]
            refine .append (.append ?_ (.single ?_)) (.of_still closed)
            · intro before one after split _ earlier member
              exact faultless earlier (by simp [split, member])
            · rw [List.append_nil]
              exact faultless

/-- Where anything is changed two looks at the fixture agreed first. -/
theorem Exercised.confirmed {trigger : Trigger} {base : Path} {privileges : Privileges}
    {result : Except Interrupt Unit} {asked : List Asked}
    (exercised : Exercised trigger base privileges result asked)
    (changes : Asked.mutations asked ≠ []) :
    ∃ first second rest, asked =
      ⟨.snapshot, ⟨.stat (base.join trigger.fixture), .ok first⟩⟩ ::
        ⟨.identity, ⟨.stat (base.join trigger.fixture), .ok second⟩⟩ :: rest ∧
      second.identity = first.identity := by
  cases exercised with
  | unresolved resolved => exact (changes (Asked.mutations_of_still resolved.still)).elim
  | ownerless resolved =>
      exact (changes (Asked.mutations_of_still (resolved.still_asking (.inr ⟨_, rfl⟩)))).elim
  | steps resolved =>
      cases resolved with
      | @confirmed first _ judged =>
          have ⟨second, seen, same⟩ := Snapshot.named_eq_ok_iff.1 ⟨(), judged⟩
          rw [seen]
          exact ⟨first, second, _, rfl, same⟩

/-- Where an owner is set the third call reported one. -/
theorem Exercised.owned {base : Path} {privileges : Privileges} {result : Except Interrupt Unit}
    {asked : List Asked} (exercised : Exercised .ownershipChange base privileges result asked)
    (changes : Asked.mutations asked ≠ []) :
    ∃ metadata, asked[2]? =
      some ⟨.owner, ⟨.stat (base.join Trigger.ownershipChange.fixture), .ok metadata⟩⟩ := by
  cases exercised with
  | unresolved resolved => exact (changes (Asked.mutations_of_still resolved.still)).elim
  | ownerless resolved =>
      exact (changes (Asked.mutations_of_still (resolved.still_asking (.inr ⟨_, rfl⟩)))).elim
  | steps resolved known inTurn asks =>
      rcases known with rfl | ⟨reply, rfl, found, _⟩
      · exact absurd rfl (asks rfl)
      · have ⟨metadata, reported, _⟩ := owned_eq_ok_iff.1 found
        rw [reported]
        cases resolved with
        | confirmed => exact ⟨metadata, rfl⟩

/-! ## Whole scenarios -/

/-- What a run may change, and when, given the calls that it made. -/
structure Restrained (trigger : Trigger) (base : Path) (asked : List Asked) : Prop where
  /-- The changes are a beginning of the program, with the owner that the third call reported, and
  all but the last are granted or found a leftover missing. -/
  begins : Begins (program trigger (rolePath base trigger) (reportedOwner asked))
    (Asked.mutations asked)
  /-- Without two looks at the fixture that agree nothing is changed. -/
  confirmed : Asked.mutations asked ≠ [] → ∃ first second rest, asked =
    ⟨.snapshot, ⟨.stat (base.join trigger.fixture), .ok first⟩⟩ ::
      ⟨.identity, ⟨.stat (base.join trigger.fixture), .ok second⟩⟩ :: rest ∧
    second.identity = first.identity
  /-- Without a third look, at the owner, no owner is set. -/
  owned : trigger = .ownershipChange → Asked.mutations asked ≠ [] → ∃ metadata,
    asked[2]? = some ⟨.owner, ⟨.stat (base.join trigger.fixture), .ok metadata⟩⟩
  /-- After a call that is not faultless nothing is changed. -/
  faultless : BeforeChanges (fun before _ => ∀ earlier ∈ before, earlier.purpose ≠ .release →
    earlier.Faultless (Asked.firstIdentity? asked)) asked
  /-- After a complete change nothing more is changed before a look at the identity. -/
  seen : BeforeChanges (fun before _ => Asked.Seen before) asked
  /-- A change through an open file is made through the fixture, while it is open. -/
  through : BeforeChanges (Through (base.join trigger.fixture)) asked

theorem Exercised.restrained {trigger : Trigger} {base : Path} {privileges : Privileges}
    {result : Except Interrupt Unit} {asked : List Asked}
    (exercised : Exercised trigger base privileges result asked) :
    Restrained trigger base asked where
  begins := exercised.begins
  confirmed := exercised.confirmed
  owned := by
    rintro rfl
    exact exercised.owned
  faultless := exercised.faultless_before
  seen := exercised.seen
  through := exercised.through

theorem restrained_nil (trigger : Trigger) (base : Path) : Restrained trigger base [] where
  begins := .stopped
  confirmed := fun changes => absurd rfl changes
  owned := fun _ changes => absurd rfl changes
  faultless := .of_still (by simp)
  seen := .of_still (by simp)
  through := .of_still (by simp)

variable {σ : Type} [Kernel σ]

/-- In a directory whose name cannot be passed on a run fails before it asks anything. -/
theorem exec_exercise_of_hasNul (trigger : Trigger) {base : Path} (privileges : Privileges)
    (nul : base.HasNul) (kernel : σ) :
    ∃ failure,
      (exercise trigger base privileges).exec kernel = ⟨.error (.fail failure), kernel, []⟩ := by
  have member : base.join trigger.fixture ∈ (Call.stat (base.join trigger.fixture)).paths :=
    List.mem_singleton.2 rfl
  have refused : (base.join trigger.fixture).HasNul := by
    apply Decidable.byContradiction
    intro clean
    exact Path.not_hasNul_of_join (Role.not_isAbsolute_fileName trigger .fixture) clean nul
  unfold exercise Fixture.resolve FileSystem.lookup
  simp only [Attempt.exec_bind, Attempt.must, Attempt.strictly, Attempt.exec_explain,
    FileSystem.exec_unlessMissing, FileSystem.exec_issue_of_hasNul .snapshot member refused]
  exact ⟨_, rfl⟩

theorem asked_exercise_of_hasNul (trigger : Trigger) {base : Path} (privileges : Privileges)
    (nul : base.HasNul) (kernel : σ) :
    Trace.asked ((exercise trigger base privileges).exec kernel).record = [] := by
  have ⟨_, refused⟩ := exec_exercise_of_hasNul trigger privileges nul kernel
  rw [refused]
  rfl

/-- A run takes one of its courses, or it is refused before it asks anything. -/
theorem exercised_or_refused (trigger : Trigger) (base : Path) (privileges : Privileges)
    (kernel : σ) :
    let ran := (exercise trigger base privileges).exec kernel
    Exercised trigger base privileges ran.value (Trace.asked ran.record) ∨
      (∃ interrupt, ran.value = .error interrupt) ∧ Trace.asked ran.record = [] := by
  by_cases nul : base.HasNul
  · obtain ⟨failure, refused⟩ := exec_exercise_of_hasNul trigger privileges nul kernel
    rw [refused]
    exact .inr ⟨⟨.fail failure, rfl⟩, rfl⟩
  · exact .inl ((ensures_exercised trigger privileges nul).post kernel)

/-- Every run of a scenario is restrained, whatever the kernel answers. -/
theorem exercise_restrained (trigger : Trigger) (base : Path) (privileges : Privileges)
    (kernel : σ) :
    Restrained trigger base
      (Trace.asked ((exercise trigger base privileges).exec kernel).record) := by
  by_cases nul : base.HasNul
  · rw [asked_exercise_of_hasNul trigger privileges nul]
    exact restrained_nil trigger base
  · exact ((ensures_exercised trigger privileges nul).post kernel).restrained

/-- Interruptions and a write that takes three bytes at first leave the program as it is. -/
example :
    let asked := Trace.asked ((exercise .contentWrite "/lower" ⟨1000, false, false⟩).exec
      (Script.mk [.grant {}, .grant {}, .refuse .eintr, .grant {}, .refuse .eintr,
        .grant { taken := some 3 }] 1000)).record
    (Asked.mutations asked).map Asked.call =
      [.write 1000 (.ofText " appended data"), .pwrite 1002 (.ofText "COPY") 0] := by
  rfl

end Scenario

end CopyUp
