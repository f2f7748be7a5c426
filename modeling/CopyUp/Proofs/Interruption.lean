import CopyUp.Proofs.Endings

/-!
# Skips and failures

A run that does not pass is a faultless run that was broken off. The one call that broke it off
tells whether it was skipped or failed, and the failure repeats what the kernel answered to this
call: there are no failures that the kernel did not give a reason for, and no skips that a violated
check could hide behind.
-/

namespace CopyUp

open Asked (Fits)

theorem Outcome.ofResult_eq_failed_iff {result : Except Interrupt Unit} {failure : Failure} :
    Outcome.ofResult result = .failed failure ↔ result = .error (.fail failure) := by
  cases result with
  | ok => simp [Outcome.ofResult]
  | error interrupt => cases interrupt <;> simp [Outcome.ofResult]

/-- Items that were done are faultless, and the one that stopped tells why. -/
theorem InTurn.ends {α : Type} {first : Identity} {told : Option String → Asked → Prop}
    {does : α → Except Interrupt Unit → List Asked → Prop}
    {labelled : Option String → α → Bool} {latest : Option String → α → Option String}
    {items : List α} {interrupt : Interrupt} {result : Except Interrupt Unit}
    {asked : List Asked} (inTurn : InTurn does items result asked)
    (failed : result = .error interrupt)
    (works : ∀ item ∈ items, ∀ asked, does item (.ok ()) asked → ∀ one ∈ asked, Fits first one)
    (names : ∀ item asked name, does item (.ok ()) asked →
      (Asked.latestName? asked).or name = latest name item)
    (stops : ∀ item ∈ items, ∀ asked name, does item (.error interrupt) asked →
      labelled name item → Ends (some first) name told asked)
    {name : Option String} (right : Scenario.labelledFrom labelled latest name items) :
    Ends (some first) name told asked := by
  induction inTurn generalizing name with
  | done => contradiction
  | stops failing =>
      cases failed
      exact stops _ List.mem_cons_self _ _ failing (Bool.and_eq_true_iff.1 right).1
  | goes worked _ ih =>
      apply Ends.prepend (works _ List.mem_cons_self _ worked)
      rw [names _ _ _ worked]
      exact ih failed (fun item member => works item (List.mem_cons_of_mem _ member))
        (fun item member => stops item (List.mem_cons_of_mem _ member))
        (Bool.and_eq_true_iff.1 right).2

namespace Scenario

variable {scene : Scene} {asked : List Asked} {name : Option String} {interrupt : Interrupt}

theorem OpenPerformed.ends {fd : Descriptor} {step : OpenStep}
    (performed : OpenPerformed scene fd step (.error interrupt) asked)
    (labelled : step.labelled name) :
    Ends (some scene.snapshot.expected) name
      (interrupt.ToldBy scene.trigger (some scene.snapshot.expected)) asked := by
  generalize failed : (Except.error interrupt : Except Interrupt Unit) = result at performed
  cases performed with
  | @change made result _ applied =>
      cases result with
      | ok => contradiction
      | error source =>
          apply applied.ends.mono
          exact fun _ _ breaks => told_of_judged failed.symm made.callWord_operation breaks
  | @stable after reply =>
      obtain ⟨failure, judged, rfl⟩ := Attempt.mapError_eq_error_iff.1 failed.symm
      have told : failure.ToldBy (some scene.snapshot.expected) name
          ⟨.identity, ⟨.fstat fd, reply⟩⟩ :=
        Snapshot.told_of_fstat judged (.of_firstWord labelled)
      exact .single rfl (told.interrupts (by simp))

theorem ends_of_unlink {first : Identity} {trigger : Trigger} {purpose : Purpose} {path : Path}
    {errno : Errno} (other : purpose ≠ .change) :
    Ends (some first) name ((Interrupt.fail (.call "unlink" (.os errno))).ToldBy trigger
      (some first)) [⟨purpose, ⟨.unlink path, .error errno⟩⟩] := by
  have told : (Failure.call "unlink" (.os errno)).ToldBy (some first) name
      ⟨purpose, ⟨.unlink path, .error errno⟩⟩ := ⟨rfl, .inl ⟨errno, rfl, rfl⟩⟩
  exact .single rfl (told.interrupts other)

theorem Performed.ends {step : Step} (performed : Performed scene step (.error interrupt) asked)
    (labelled : step.labelled name) :
    Ends (some scene.snapshot.expected) name
      (interrupt.ToldBy scene.trigger (some scene.snapshot.expected)) asked := by
  generalize failed : (Except.error interrupt : Except Interrupt Unit) = result at performed
  cases performed with
  | @removeStale file reply =>
      obtain ⟨failure, judged, rfl⟩ := Attempt.mapError_eq_error_iff.1 failed.symm
      obtain ⟨source, refused, rfl⟩ := Attempt.mapError_eq_error_iff.1 judged
      cases reply with
      | ok => contradiction
      | error errno =>
          by_cases missing : errno = .enoent
          · simp [FileSystem.removed, missing] at refused
          · simp only [FileSystem.removed, missing, if_false] at refused
            cases refused
            exact ends_of_unlink (by decide)
  | @change made file reply _ answered =>
      cases reply with
      | ok => contradiction
      | error errno =>
          apply (PathChange.ends answered).mono
          exact fun _ _ breaks => told_of_judged failed.symm made.callWord_operation breaks
  | check checked =>
      obtain ⟨failure, rfl, rfl⟩ := Attempt.mapError_eq_error_iff.1 failed.symm
      exact checked.ends labelled
  | notOpened answered =>
      cases failed
      exact ends_of_opening answered (Access.callWord_operation _)
  | @opened _ _ fd _ closed opening _ answered inTurn =>
      have opens : ∀ one ∈ opening, Fits scene.snapshot.expected one :=
        (honest_opening answered).1 ⟨fd, rfl⟩
      have used := inTurn.ends failed.symm (fun _ _ _ worked => worked.honest.1 ⟨(), rfl⟩)
        (fun _ _ name worked => worked.latestName? name)
        (fun _ _ _ _ stopped right => stopped.ends right) labelled
      rw [List.append_assoc]
      exact .prepend_of_still opens (still_of_opening answered) (used.close fd closed)
  | @cleanUp file reply =>
      obtain ⟨failure, judged, rfl⟩ := Attempt.mapError_eq_error_iff.1 failed.symm
      obtain ⟨source, refused, rfl⟩ := Attempt.mapError_eq_error_iff.1 judged
      cases reply with
      | ok => contradiction
      | error errno =>
          cases refused
          exact ends_of_unlink (by decide)

/-! ## Whole scenarios -/

/-- The calls of a run up to its snapshot, which fixes the identity to compare with. -/
theorem confirmed_of_resolved {base : Path} {trigger : Trigger} {snapshot : Snapshot}
    (resolved : Fixture.Resolved base trigger (.ok snapshot) asked) :
    (∀ one ∈ asked, Fits snapshot.expected one) ∧ (∀ one ∈ asked, one.call.mutates = false) ∧
      ∀ more, Asked.firstIdentity? (asked ++ more) = some snapshot.expected := by
  cases resolved with
  | confirmed judged =>
      have again := (Snapshot.honest_query .stat judged).1 ⟨(), rfl⟩
      exact ⟨List.forall_mem_cons.2 ⟨Asked.fits_snapshot, again⟩,
        by simp [Asked.call, Call.mutates], fun _ => rfl⟩

def absent (trigger : Trigger) (base : Path) : Asked :=
  ⟨.snapshot, ⟨.stat (base.join trigger.fixture), .error .enoent⟩⟩

theorem ends_of_unresolved {trigger : Trigger} {base : Path}
    (resolved : Fixture.Resolved base trigger (.error interrupt) asked) :
    (interrupt = .skip (.fixtureMissing trigger.fixture) ∧ asked = [absent trigger base]) ∨
      Ends (Asked.firstIdentity? asked) none
        (interrupt.ToldBy trigger (Asked.firstIdentity? asked)) asked := by
  cases resolved with
  | missing => exact .inl ⟨rfl, rfl⟩
  | @refused errno other =>
      have told : (Failure.call "stat" (.os errno)).ToldBy none none
          ⟨.snapshot, ⟨.stat (base.join trigger.fixture), .error errno⟩⟩ :=
        ⟨rfl, .inl ⟨errno, rfl, rfl⟩⟩
      exact .inr (.single rfl (told.interrupts nofun))
  | @drifted metadata again failure judged =>
      have told : failure.ToldBy (some metadata.identity) none
          ⟨.identity, ⟨.stat (base.join trigger.fixture), again⟩⟩ :=
        Snapshot.told_of_query .stat judged (.inr ⟨rfl, rfl⟩)
      have looked : ∀ one ∈ [(⟨.snapshot, ⟨.stat (base.join trigger.fixture), .ok metadata⟩⟩ :
          Asked)], Fits metadata.identity one := List.forall_mem_singleton.2 Asked.fits_snapshot
      exact .inr (Ends.prepend_of_still looked (List.forall_mem_singleton.2 rfl)
        (.single rfl (told.interrupts nofun)))

theorem Exercised.ends {trigger : Trigger} {base : Path} {privileges : Privileges}
    (exercised : Exercised trigger base privileges (.error interrupt) asked) :
    (interrupt = .skip (.fixtureMissing trigger.fixture) ∧ asked = [absent trigger base]) ∨
      Ends (Asked.firstIdentity? asked) none
        (interrupt.ToldBy trigger (Asked.firstIdentity? asked)) asked := by
  generalize failed : (Except.error interrupt : Except Interrupt Unit) = result at exercised
  cases exercised with
  | unresolved resolved =>
      cases failed
      exact ends_of_unresolved resolved
  | @ownerless snapshot failure before reply resolved unknown =>
      cases failed
      obtain ⟨fits, still, first⟩ := confirmed_of_resolved resolved
      have told : failure.ToldBy (some snapshot.expected) none
          ⟨.owner, ⟨.stat (base.join trigger.fixture), reply⟩⟩ := told_of_owned unknown
      rw [first]
      exact .inr (.prepend_of_still fits still (.single rfl (told.interrupts nofun)))
  | @steps snapshot owner _ before asking more resolved known inTurn =>
      obtain ⟨fits, still, first⟩ := confirmed_of_resolved resolved
      have fitting : ∀ one ∈ asking, Fits snapshot.expected one := by
        rcases known with rfl | ⟨reply, rfl, found, _⟩
        · simp
        · exact honest_owner.1 ⟨owner, found⟩
      have asks : ∀ one ∈ asking, one.call.mutates = false := by
        rcases known with rfl | ⟨reply, rfl, _⟩
        · simp
        · exact List.forall_mem_singleton.2 rfl
      have stepwise := inTurn.ends failed.symm
        (fun step member _ worked => (worked.honest fun minimum file after same =>
          linkCount_mem_steps (same ▸ member)).1 ⟨(), rfl⟩)
        (fun _ _ name worked => worked.latestName? name)
        (fun _ _ _ _ stopped right => stopped.ends right) (labelled_steps trigger)
      rw [List.append_assoc, first]
      exact .inr (.prepend_of_still fits still (.prepend_of_still fitting asks stepwise))

/-- A scenario whose fixture is not there asks nothing else. -/
theorem Exercised.of_absent {trigger : Trigger} {base : Path} {privileges : Privileges}
    {result : Except Interrupt Unit}
    (exercised : Exercised trigger base privileges result asked)
    (gone : asked.head? = some (absent trigger base)) :
    result = .error (.skip (.fixtureMissing trigger.fixture)) ∧ asked = [absent trigger base] := by
  have present : ∀ {snapshot : Snapshot} {before more : List Asked},
      Fixture.Resolved base trigger (.ok snapshot) before →
        (before ++ more).head? ≠ some (absent trigger base) := by
    intro snapshot before more resolved
    cases resolved with
    | confirmed => simp [absent]
  cases exercised with
  | unresolved resolved =>
      cases resolved with
      | missing => exact ⟨rfl, rfl⟩
      | refused other => simp [absent, other] at gone
      | drifted => simp [absent] at gone
  | ownerless resolved => exact absurd gone (present resolved)
  | steps resolved =>
      rw [List.append_assoc] at gone
      exact absurd gone (present resolved)

theorem Exercised.failed_told {trigger : Trigger} {base : Path} {privileges : Privileges}
    {failure : Failure}
    (exercised : Exercised trigger base privileges (.error (.fail failure)) asked) :
    ∃ earlier last closes, asked = earlier ++ last :: closes ∧ last.closed? = none ∧
      (∀ one ∈ closes, one.purpose = .release ∧ ∃ fd, one.call = .close fd) ∧
        failure.ToldBy (Asked.firstIdentity? asked) (Asked.latestName? earlier) last := by
  rcases exercised.ends with ⟨impossible, _⟩ | ends
  · contradiction
  · generalize Asked.firstIdentity? asked = first at ends ⊢
    cases ends with
    | @intro earlier closes last faultless decides closing tells =>
        rw [Option.or_none] at tells
        exact ⟨earlier, last, closes, rfl, decides, closing, tells.1⟩

variable {σ : Type} [Kernel σ]

/-- A failure repeats the answer to the last call that is no close of a file, and names this call
or the change that went before it. -/
theorem exercise_failed_told (trigger : Trigger) {base : Path} (privileges : Privileges)
    (clean : ¬ base.HasNul) (kernel : σ) {failure : Failure}
    (failed : Outcome.ofResult ((exercise trigger base privileges).exec kernel).value =
      .failed failure) :
    let asked := Trace.asked ((exercise trigger base privileges).exec kernel).record
    ∃ earlier last closes, asked = earlier ++ last :: closes ∧ last.closed? = none ∧
      (∀ one ∈ closes, one.purpose = .release ∧ ∃ fd, one.call = .close fd) ∧
        failure.ToldBy (Asked.firstIdentity? asked) (Asked.latestName? earlier) last := by
  have exercised := (ensures_exercised trigger privileges clean).post kernel
  rw [Outcome.ofResult_eq_failed_iff.1 failed] at exercised
  exact exercised.failed_told

/-- Another identity behind the second link, after a second look at the fixture, three changes and
all looks between them. -/
theorem second_link_told :
    let ran := (exercise .linkCreation "/lower" ⟨1000, false, false⟩).exec (Script.mk
      (List.replicate 7 (.grant {}) ++ [.grant { metadata := ⟨⟨42⟩, 2, 0, 0, 0, 0⟩ }, .grant {},
        .grant {}, .grant { metadata := ⟨⟨43⟩, 2, 0, 0, 0, 0⟩ }]) 1000)
    let asked := Trace.asked ran.record
    let failure := Failure.identityChanged "link (after second link)" ⟨42⟩ ⟨43⟩
    Outcome.ofResult ran.value = .failed failure ∧
      ∃ earlier last closes, asked = earlier ++ last :: closes ∧ last.closed? = none ∧
        (∀ one ∈ closes, one.purpose = .release ∧ ∃ fd, one.call = .close fd) ∧
          failure.ToldBy (Asked.firstIdentity? asked) (Asked.latestName? earlier) last :=
  ⟨by rfl, exercise_failed_told .linkCreation ⟨1000, false, false⟩ (by decide) _ (by rfl)⟩

/-! ## Skips -/

end Scenario

/-- The last call that is no close of a file. -/
def Asked.deciding? (asked : List Asked) : Option Asked :=
  (asked.filter fun one => one.closed?.isNone).getLast?

/-- Answers that a scenario must not pass over and not take for a reason to skip. -/
inductive Asked.Condemns (trigger : Trigger) (first : Option Identity) (one : Asked) : Prop
  /-- No support or no permission for a call that is no change. -/
  | unsupported {errno : Errno} (other : one.purpose ≠ .change) (decides : one.closed? = none)
      (told : one.errno? = some errno)
      (lacking : errno = .enosys ∨ errno = .eopnotsupp ∨ errno = .eperm)
  /-- No permission for a change of which the trigger expects to be permitted. -/
  | denied (decides : one.closed? = none) (told : one.errno? = some .eperm)
      (strict : trigger ≠ .ownershipChange ∧ trigger ≠ .attributeSet)
  /-- Nothing was written, which is no error of the kernel. -/
  | stuck (taken : one.taken? = some 0)
  /-- A look at the identity that did not show that of the snapshot. -/
  | drifted (compared : one.purpose = .identity)
      (differs : ∀ metadata, one.metadata? = some metadata → some metadata.identity ≠ first)

namespace Asked

theorem not_faultless_of_tolerated {trigger : Trigger} {first : Option Identity} {one : Asked}
    (tolerated : one.Tolerated trigger) : ¬ one.Faultless first := by
  obtain ⟨purpose, errno, told, lacking⟩ := tolerated
  intro faultless
  rcases faultless.granted errno told with ⟨_, rfl⟩ | ⟨other, _⟩
  · rcases lacking with same | same | ⟨same, _⟩ <;> contradiction
  · simp [purpose] at other

theorem not_release {one : Asked} {trigger : Trigger} {path : Scenario.Role → Path}
    (apt : one.Apt trigger path) (decides : one.closed? = none) : one.purpose ≠ .release := by
  intro release
  simp only [Apt, release] at apt
  obtain ⟨fd, call⟩ := apt
  simp [closed?, call] at decides

theorem not_faultless_of_lacking {one : Asked} {trigger : Trigger} {base : Path}
    {first : Option Identity} {errno : Errno} (told : one.errno? = some errno)
    (lacking : errno = .enosys ∨ errno = .eopnotsupp ∨ errno = .eperm) :
    ¬ one.Faultless first ∧ one ≠ Scenario.absent trigger base := by
  constructor
  · intro faultless
    rcases faultless.granted errno told with ⟨_, rfl⟩ | ⟨_, rfl⟩ <;>
      rcases lacking with same | same | same <;> contradiction
  · rintro rfl
    cases told
    rcases lacking with same | same | same <;> contradiction

theorem not_faultless_of_drifted {one : Asked} {trigger : Trigger} {path : Scenario.Role → Path}
    {first : Option Identity} (apt : one.Apt trigger path) (compared : one.purpose = .identity)
    (differs : ∀ metadata, one.metadata? = some metadata → some metadata.identity ≠ first) :
    ¬ one.Faultless first := by
  intro faultless
  have shown := faultless.stable (.inr compared)
  have refused : ∀ errno, one.errno? = some errno → one.call.restarts := by
    intro errno told
    rcases faultless.granted errno told with ⟨restarts, _⟩ | ⟨other, _⟩
    · exact restarts
    · simp [compared] at other
  obtain ⟨purpose, call, reply⟩ := one
  cases compared
  rcases apt with ⟨file, rfl | rfl⟩ | ⟨fd, rfl⟩
  all_goals
    cases reply with
    | ok metadata => exact differs metadata rfl (shown metadata rfl)
    | error errno => exact absurd (refused errno rfl) (by simp [call, Call.restarts])

end Asked

namespace Ends

variable {first : Option Identity} {name : Option String} {told : Option String → Asked → Prop}
  {asked : List Asked}

/-- The call that decides is the last one that is no close. -/
theorem deciding (ends : Ends first name told asked) :
    ∃ latest last, Asked.deciding? asked = some last ∧ told latest last := by
  cases ends with
  | @intro earlier closes last faultless decides closing tells =>
      have none : closes.filter (fun one => one.closed?.isNone) = [] := by
        rw [List.filter_eq_nil_iff]
        intro one member
        obtain ⟨_, fd, call⟩ := closing one member
        simp [Asked.closed?, call]
      refine ⟨_, last, ?_, tells⟩
      rw [Asked.deciding?, List.filter_append, List.filter_cons_of_pos (by simp [decides]), none]
      simp

/-- Only the call that decides is at fault. -/
theorem told_of_fault (ends : Ends first name told asked) {one : Asked} (member : one ∈ asked)
    (other : one.purpose ≠ .release) (fault : ¬ one.Faultless first) :
    ∃ latest, told latest one := by
  cases ends with
  | @intro earlier closes last faultless decides closing tells =>
      rcases List.mem_append.1 member with before | later
      · exact absurd (faultless one before other) fault
      · rcases List.mem_cons.1 later with rfl | behind
        · exact ⟨_, tells⟩
        · exact absurd (closing one behind).1 other

end Ends

namespace Scenario

variable {trigger : Trigger} {base : Path} {privileges : Privileges}
  {result : Except Interrupt Unit} {asked : List Asked}

theorem Exercised.skipped_iff (exercised : Exercised trigger base privileges result asked) :
    (Outcome.ofResult result).isSkipped ↔ asked.head? = some (absent trigger base) ∨
      ∃ last, Asked.deciding? asked = some last ∧ last.Tolerated trigger := by
  constructor
  · intro skipped
    cases result with
    | ok => contradiction
    | error interrupt =>
        cases interrupt with
        | fail => contradiction
        | skip reason =>
            rcases exercised.ends with ⟨_, rfl⟩ | ends
            · exact .inl rfl
            · obtain ⟨_, last, deciding, tolerated⟩ := ends.deciding
              exact .inr ⟨last, deciding, tolerated⟩
  · rintro (gone | ⟨last, deciding, tolerated⟩)
    · rw [(exercised.of_absent gone).1]
      rfl
    · cases result with
      | ok =>
          -- a run that passes has no tolerated error anywhere
          have member := List.mem_of_getLast? deciding
          have faultless := exercised.ok_iff_faultless.1 ⟨_, rfl⟩ last
            (List.mem_filter.1 member).1 (by simp [tolerated.1])
          exact absurd faultless (Asked.not_faultless_of_tolerated tolerated)
      | error interrupt =>
          cases interrupt with
          | skip => rfl
          | fail failure =>
              rcases exercised.ends with ⟨impossible, _⟩ | ends
              · contradiction
              · obtain ⟨_, other, same, _, strict⟩ := ends.deciding
                cases deciding.symm.trans same
                exact absurd tolerated strict

/-- A call at fault that the trigger does not tolerate ends the scenario with a failure. -/
theorem Exercised.failed_of_fault (exercised : Exercised trigger base privileges result asked)
    {one : Asked} (member : one ∈ asked) (other : one.purpose ≠ .release)
    (fault : ¬ one.Faultless (Asked.firstIdentity? asked)) (strict : ¬ one.Tolerated trigger)
    (there : one ≠ absent trigger base) : (Outcome.ofResult result).isFailed := by
  cases result with
  | ok => exact absurd (exercised.ok_iff_faultless.1 ⟨_, rfl⟩ one member other) fault
  | error interrupt =>
      cases interrupt with
      | fail => rfl
      | skip reason =>
          rcases exercised.ends with ⟨_, rfl⟩ | ends
          · exact absurd (List.mem_singleton.1 member) there
          · obtain ⟨_, tolerated⟩ := ends.told_of_fault member other fault
            exact absurd tolerated strict

theorem Exercised.failed_of_condemns (exercised : Exercised trigger base privileges result asked)
    {one : Asked} (member : one ∈ asked)
    (condemns : one.Condemns trigger (Asked.firstIdentity? asked)) :
    (Outcome.ofResult result).isFailed := by
  have apt := exercised.apt one member
  cases condemns with
  | unsupported other decides told lacking =>
      obtain ⟨fault, there⟩ := Asked.not_faultless_of_lacking told lacking
      exact exercised.failed_of_fault member (Asked.not_release apt decides) fault
        (fun tolerated => other tolerated.1) there
  | denied decides told strict =>
      obtain ⟨fault, there⟩ := Asked.not_faultless_of_lacking told (.inr (.inr rfl))
      refine exercised.failed_of_fault member (Asked.not_release apt decides) fault ?_ there
      rintro ⟨_, errno, same, tolerated⟩
      cases told.symm.trans same
      rcases tolerated with same | same | ⟨_, owner | sets⟩
      · contradiction
      · contradiction
      · exact strict.1 owner
      · exact strict.2 sets
  | stuck taken =>
      have granted := Asked.errno?_of_taken? taken
      have kept : one.purpose ≠ .release := by
        apply Asked.not_release apt
        obtain ⟨purpose, call, reply⟩ := one
        cases call <;> first | rfl | simp [Asked.taken?] at taken
      apply exercised.failed_of_fault member kept
      · exact fun faultless => absurd (faultless.taken 0 taken) (by omega)
      · rintro ⟨_, errno, told, _⟩
        rw [granted] at told
        contradiction
      · rintro rfl
        contradiction
  | drifted compared differs =>
      apply exercised.failed_of_fault member (by simp [compared])
      · exact Asked.not_faultless_of_drifted apt compared differs
      · rintro ⟨change, _⟩
        rw [compared] at change
        contradiction
      · rintro rfl
        contradiction

variable {σ : Type} [Kernel σ]

/-- A scenario is skipped exactly if its fixture is not there, and then nothing else is asked, or
if the last call that is no close of a file is a change that the trigger tolerates to be refused.
Nothing else that goes wrong is taken for a reason to skip. -/
theorem exercise_skipped_iff (trigger : Trigger) {base : Path} (privileges : Privileges)
    (clean : ¬ base.HasNul) (kernel : σ) :
    let ran := (exercise trigger base privileges).exec kernel
    let asked := Trace.asked ran.record
    let outcome := Outcome.ofResult ran.value
    (outcome.isSkipped ↔ asked.head? = some (absent trigger base) ∨
        ∃ last, Asked.deciding? asked = some last ∧ last.Tolerated trigger) ∧
      (asked.head? = some (absent trigger base) → asked = [absent trigger base]) ∧
        ∀ one ∈ asked, one.Condemns trigger (Asked.firstIdentity? asked) → outcome.isFailed := by
  intro ran asked outcome
  have exercised := (ensures_exercised trigger privileges clean).post kernel
  exact ⟨exercised.skipped_iff, fun gone => (exercised.of_absent gone).2,
    fun _ member condemns => exercised.failed_of_condemns member condemns⟩

/-- Setting the owner is not permitted. -/
theorem denied_owner_skipped : ¬ Path.HasNul "/lower" ∧
    (Outcome.ofResult ((exercise .ownershipChange "/lower" ⟨1000, false, false⟩).exec
      (Script.mk [.grant {}, .grant {}, .grant {}, .refuse .eperm] 1000)).value).isSkipped :=
  ⟨by decide, (exercise_skipped_iff .ownershipChange ⟨1000, false, false⟩ (by decide) _).1.2
    (.inr ⟨_, rfl, rfl, .eperm, rfl, .inr (.inr ⟨rfl, .inl rfl⟩)⟩)⟩

end Scenario

end CopyUp
