import CopyUp.Kernel.Script
import CopyUp.Proofs.Replay

/-!
# The fixture's object is kept

Two triggers move names: one renames its fixture, the other links it. However a run of theirs goes,
the object of the fixture keeps a name until the run has passed, and no name moves but those that
the trigger owns. What the run has made is removed last, when every check has been made and held.
-/

namespace CopyUp

open Asked (replay)

section

variable {ε α : Type} {does : α → Except ε Unit → List Asked → Prop} {items : List α}
  {result : Except ε Unit} {asked before after : List Asked}

/-- The item that a call belongs to: those before it have worked, and if it is the last nothing
follows its own calls. -/
theorem InTurn.exists_item {one : Asked} (inTurn : InTurn does items result asked)
    (split : asked = before ++ one :: after) :
    ∃ done item rest left first last ended, items = done ++ item :: rest ∧
      InTurn does done (.ok ()) left ∧ does item ended (first ++ one :: last) ∧
      before = left ++ first ∧ (rest = [] → after = last) := by
  induction inTurn generalizing before with
  | done => simp at split
  | @stops item rest error _ failed =>
      subst split
      exact ⟨[], item, rest, [], before, after, .error error, rfl, .done, failed, rfl,
        fun _ => rfl⟩
  | @goes item rest _ part more worked later ih =>
      rcases split_append split with ⟨between, rfl, others⟩ | ⟨between, rfl, rfl⟩
      · obtain ⟨done, found, behind, left, first, last, ended, rfl, inTurn, does, rfl, ends⟩ :=
          ih others
        exact ⟨item :: done, found, behind, part ++ left, first, last, ended, rfl,
          .goes worked inTurn, does, (List.append_assoc ..).symm, ends⟩
      · refine ⟨[], item, rest, [], before, between, .ok (), rfl, .done, worked, rfl, ?_⟩
        rintro rfl
        cases later
        exact List.append_nil between

theorem InTurn.exists_part {item : α} (inTurn : InTurn does items result asked)
    (worked : result = .ok ()) (member : item ∈ items) :
    ∃ first part last, asked = first ++ part ++ last ∧ does item (.ok ()) part := by
  induction inTurn with
  | done => contradiction
  | stops => contradiction
  | @goes _ _ _ part more now _ ih =>
      cases member with
      | head => exact ⟨[], part, more, rfl, now⟩
      | tail _ later =>
          obtain ⟨first, found, last, rfl, done⟩ := ih worked later
          exact ⟨part ++ first, found, last, by simp, done⟩

end

/-- The call is granted and gives this name to an object. -/
def Asked.Places (name : Path) (one : Asked) : Prop :=
  one.errno? = none ∧ ∃ source, one.call = .rename source name ∨ one.call = .link source name

theorem Asked.Places.moves {name : Path} {one : Asked} (places : one.Places name) : one.Moves := by
  obtain ⟨granted, source, call | call⟩ := places <;> exact ⟨granted, by simp [call, Call.rebinds]⟩

namespace Scenario

/-! ## The last removal -/

def PathChange.places (target : Role) : PathChange → Bool
  | rename file | link file => file = target
  | _ => false

def Step.places (target : Role) : Step → Bool
  | .change made _ => made.places target
  | _ => false

def Step.removes (target : Role) : Step → Bool
  | removeStale file | cleanUp file | .change .unlink file => file = target
  | _ => false

/-- Once the file has its name, only the last step takes it away. -/
def removedLast (target : Role) : Bool → List Step → Bool
  | _, [] => true
  | placed, step :: rest =>
    (!(placed && step.removes target) || rest.isEmpty) &&
      removedLast target (placed || step.places target) rest

theorem rest_eq_nil_of_removedLast {target : Role} {placed : Bool} {done rest : List Step}
    {step : Step} (last : removedLast target placed (done ++ step :: rest))
    (removes : step.removes target)
    (before : placed ∨ ∃ earlier ∈ done, earlier.places target) : rest = [] := by
  -- The name may be given by any of the steps that are done, so the flag changes on the way.
  induction done generalizing placed with
  | nil =>
      have here : placed := by simpa using before
      have ⟨ended, _⟩ := Bool.and_eq_true_iff.1 last
      simpa [here, removes] using ended
  | cons first done ih =>
      have ⟨_, later⟩ := Bool.and_eq_true_iff.1 last
      refine ih later ?_
      simpa [or_assoc] using before

variable {scene : Scene} {result : Except Interrupt Unit} {asked : List Asked} {target : Role}

theorem Performed.places {step : Step} (performed : Performed scene step result asked) {one : Asked}
    (member : one ∈ asked) (places : one.Places (scene.path target)) : step.places target := by
  obtain ⟨_, source, call⟩ := places
  have named := performed.rebinds one member
  cases performed with
  | removeStale | cleanUp =>
      cases List.mem_singleton.1 member
      rcases call with call | call <;> contradiction
  | @change made file reply _ answered =>
      rw [(answered.same member).2] at call
      cases made <;> rcases call with call | call <;> try contradiction
      all_goals
        injection call with _ same
        exact decide_eq_true (scene.path_injective same)
  | check | notOpened | opened =>
      rcases call with call | call <;> simp [call, Call.rebinds, Step.rebinds] at named

theorem Performed.removes {step : Step} (performed : Performed scene step result asked)
    {one : Asked} (member : one ∈ asked) (call : one.call = .unlink (scene.path target)) :
    step.removes target := by
  have named := performed.rebinds one member
  cases performed with
  | removeStale | cleanUp =>
      cases List.mem_singleton.1 member
      injection call with same
      exact decide_eq_true (scene.path_injective same)
  | @change made file reply _ answered =>
      rw [(answered.same member).2] at call
      cases made <;> try contradiction
      injection call with same
      exact decide_eq_true (scene.path_injective same)
  | check | notOpened | opened => simp [call, Call.rebinds, Step.rebinds] at named

/-- A step that takes a name away asks for nothing else. -/
theorem Performed.alone_of_removes {step : Step} (performed : Performed scene step result asked)
    (removes : step.removes target) : ∃ one, asked = [one] := by
  cases performed with
  | removeStale | cleanUp => exact ⟨_, rfl⟩
  | @change made _ _ _ answered =>
      cases made <;> try contradiction
      exact ⟨_, answered.eq_of_not_restarts nofun⟩
  | check | notOpened | opened => contradiction

/-- Where the file has its name already, its removal is all that is left to be done. -/
theorem worked_of_removal {steps : List Step} {before after : List Asked} {one : Asked}
    (inTurn : InTurn (Performed scene) steps result asked)
    (lastly : removedLast target false steps) (split : asked = before ++ one :: after)
    (call : one.call = .unlink (scene.path target))
    (placed : ∃ earlier ∈ before, earlier.Places (scene.path target)) :
    after = [] ∧ ∃ done last, steps = done ++ [last] ∧ last.removes target ∧
      InTurn (Performed scene) done (.ok ()) before := by
  obtain ⟨done, step, rest, left, first, last, ended, rfl, worked, performed, rfl, ends⟩ :=
    inTurn.exists_item split
  have removes : step.removes target := performed.removes (by simp) call
  obtain ⟨alone, single⟩ := performed.alone_of_removes removes
  obtain ⟨rfl, -, rfl⟩ := split_singleton single.symm
  rw [List.append_nil] at placed ⊢
  obtain ⟨earlier, among, places⟩ := placed
  have given : ∃ step ∈ done, step.places target := by
    by_contra none
    have absent : ∀ one ∈ left, ¬ one.Places (scene.path target) :=
      worked.forall_mem fun step member _ _ performed one among places =>
        none ⟨step, member, performed.places among places⟩
    exact absent earlier among places
  obtain rfl := rest_eq_nil_of_removedLast lastly removes (.inr given)
  exact ⟨ends rfl, done, step, rfl, removes, worked⟩

/-- Up to its steps a run only looks, and a run that does not get to them fails. -/
theorem Exercised.exists_steps {trigger : Trigger} {base : Path} {privileges : Privileges}
    (exercised : Exercised trigger base privileges result asked) :
    ∃ opening more, asked = opening ++ more ∧ (∀ one ∈ opening, one.call.mutates = false) ∧
      (more = [] ∧ result ≠ .ok () ∨ ∃ scene : Scene, scene.path = rolePath base trigger ∧
        InTurn (Performed scene) (Scenario.steps trigger) result more ∧
        Asked.firstIdentity? asked = some scene.snapshot.expected) := by
  cases exercised with
  | unresolved resolved =>
      exact ⟨asked, [], (List.append_nil _).symm, resolved.still, .inl ⟨rfl, nofun⟩⟩
  | ownerless resolved =>
      exact ⟨_, [], (List.append_nil _).symm, resolved.still_asking (.inr ⟨_, rfl⟩),
        .inl ⟨rfl, nofun⟩⟩
  | @steps snapshot owner _ first asking more resolved known inTurn =>
      have still := resolved.still_asking (known.imp_right fun ⟨reply, same, _⟩ => ⟨reply, same⟩)
      have seen := (confirmed_of_resolved resolved).2.2 (asking ++ more)
      rw [← List.append_assoc] at seen
      exact ⟨first ++ asking, more, rfl, still,
        .inr ⟨⟨base, privileges, trigger, snapshot, owner⟩, rfl, inTurn, seen⟩⟩

/-- All checks of the scenario have been made, and every call so far was as it has to be. -/
structure ChecksHeld (trigger : Trigger) (base : Path) (asked before : List Asked) : Prop where
  faultless : ∀ earlier ∈ before, earlier.purpose ≠ .release →
    earlier.Faultless (Asked.firstIdentity? asked)
  made : ∀ check file label, Step.check check file label ∈ steps trigger →
    ∃ snapshot first part last, Asked.firstIdentity? asked = some snapshot.expected ∧
      before = first ++ part ++ last ∧
      Checked snapshot (rolePath base trigger file) label check (.ok ()) part

theorem Exercised.checksHeld {trigger : Trigger} {base : Path} {privileges : Privileges}
    (exercised : Exercised trigger base privileges result asked)
    (lastly : removedLast target false (Scenario.steps trigger)) {before after : List Asked}
    {one : Asked} (split : asked = before ++ one :: after)
    (call : one.call = .unlink (rolePath base trigger target))
    (placed : ∃ earlier ∈ before, earlier.Places (rolePath base trigger target)) :
    after = [] ∧ ChecksHeld trigger base asked before := by
  have mutates : one.call.mutates := by rw [call]; rfl
  have faultless := exercised.faultless_before before one after split mutates
  obtain ⟨opening, more, whole, still, course⟩ := exercised.exists_steps
  rw [whole] at split
  -- Up to the steps nothing is given or taken, so both calls belong to steps.
  rcases split_append split with ⟨between, rfl, others⟩ | ⟨between, same, _⟩
  · rcases course with ⟨rfl, _⟩ | ⟨scene, path, inTurn, first⟩
    · simp at others
    rw [← path] at call placed
    have given : ∃ earlier ∈ between, earlier.Places (scene.path target) := by
      obtain ⟨earlier, among, places⟩ := placed
      rcases List.mem_append.1 among with looks | later
      · exact absurd places.moves (Asked.not_moves_of_still (still earlier looks))
      · exact ⟨earlier, later, places⟩
    obtain ⟨rfl, done, last, steps, removes, worked⟩ :=
      worked_of_removal inTurn lastly others call given
    refine ⟨rfl, faultless, fun check file label step => ?_⟩
    have earlier : Step.check check file label ∈ done := by
      rw [steps] at step
      rcases List.mem_append.1 step with inside | final
      · exact inside
      · cases List.mem_singleton.1 final
        contradiction
    obtain ⟨before, part, rest, rfl, performed⟩ := worked.exists_part rfl earlier
    rw [← path]
    exact ⟨scene.snapshot, opening ++ before, part, rest, first, by simp, performed.check_ok⟩
  · simp [still one (by simp [same])] at mutates

/-! ## Whole runs -/

section

variable {Object : Type} {object : Object} {names : Path → Option Object} {trigger : Trigger}
  {base : Path} {privileges : Privileges}

theorem steps_ne_nil (trigger : Trigger) : steps trigger ≠ [] := by
  cases trigger <;> exact List.cons_ne_nil _ _

/-- The files that the steps do not speak of keep their names. -/
theorem Exercised.rebinds (exercised : Exercised trigger base privileges result asked)
    {own : List Role}
    (within : ∀ step ∈ Scenario.steps trigger, ∀ file ∈ step.rebinds, file ∈ own) :
    ∀ one ∈ asked, ∀ name ∈ one.call.rebinds, ∃ file ∈ own, name = rolePath base trigger file := by
  intro one member name named
  obtain ⟨opening, more, rfl, still, course⟩ := exercised.exists_steps
  rcases List.mem_append.1 member with looks | later
  · simp [Call.rebinds_of_still (still one looks)] at named
  rcases course with ⟨rfl, _⟩ | ⟨scene, path, inTurn, _⟩
  · contradiction
  have each : ∀ one ∈ more, ∀ name ∈ one.call.rebinds, ∃ file ∈ own, name = scene.path file := by
    refine inTurn.forall_mem fun step among _ _ performed one member name named => ?_
    rw [performed.rebinds one member] at named
    obtain ⟨file, moved, rfl⟩ := List.mem_map.1 named
    exact ⟨file, within step among file moved, rfl⟩
  rw [← path]
  exact each one later name named

/-- At any moment before the run has passed, what is known after some of its steps is so. -/
theorem Exercised.describes_before (exercised : Exercised trigger base privileges result asked)
    (named : names (rolePath base trigger .fixture) = some object) {before after : List Asked}
    (split : asked = before ++ after) (unfinished : after = [] → result ≠ .ok ()) :
    ∃ done rest, rest ≠ [] ∧ Scenario.steps trigger = done ++ rest ∧
      (done.foldl Step.leaves .initial).Describes object (rolePath base trigger)
        (replay names before) := by
  have initially : ∃ done rest, rest ≠ [] ∧ Scenario.steps trigger = done ++ rest ∧
      (done.foldl Step.leaves .initial).Describes object (rolePath base trigger) names :=
    ⟨[], _, steps_ne_nil trigger, rfl, Roster.describes_initial named⟩
  obtain ⟨opening, more, rfl, still, course⟩ := exercised.exists_steps
  rcases List.append_eq_append_iff.1 split with ⟨between, rfl, others⟩ | ⟨between, rfl, _⟩
  · rw [Asked.replay_append, Asked.replay_of_still still]
    rcases course with ⟨rfl, _⟩ | ⟨scene, path, inTurn, _⟩
    · rw [(List.append_eq_nil_iff.1 others.symm).1]
      exact initially
    · obtain ⟨done, rest, left, some, same, worked, alike⟩ :=
        exists_left_of_inTurn inTurn others unfinished
      rw [← path] at named ⊢
      have describes := describes_of_inTurn worked rfl (Roster.describes_initial named)
      rw [← alike] at describes
      exact ⟨done, rest, some, same, describes⟩
  · rw [Asked.replay_of_still fun one member => still one (List.mem_append_left _ member)]
    exact initially

theorem Exercised.describes_passed (exercised : Exercised trigger base privileges result asked)
    (named : names (rolePath base trigger .fixture) = some object) (worked : result = .ok ()) :
    ((Scenario.steps trigger).foldl Step.leaves .initial).Describes object
      (rolePath base trigger) (replay names asked) := by
  obtain ⟨opening, more, rfl, still, course⟩ := exercised.exists_steps
  rw [Asked.replay_append, Asked.replay_of_still still]
  rcases course with ⟨_, failed⟩ | ⟨scene, path, inTurn, _⟩
  · exact absurd worked failed
  · rw [← path] at named ⊢
    exact describes_of_inTurn inTurn worked (Roster.describes_initial named)

/-! ## Tidy runs -/

/-- A run moves no names but those that its trigger owns, leaves none of them if it passes, and
takes the last one away again when all that was to be checked has held. -/
structure Tidy (trigger : Trigger) (own : List Role) (last : Role) (base : Path)
    (names : Path → Option Object) (outcome : Outcome) (asked : List Asked) : Prop where
  /-- At no moment has another name changed. -/
  others : ∀ before after, asked = before ++ after → ∀ name,
    (∀ file ∈ own, name ≠ rolePath base trigger file) → replay names before name = names name
  cleared : outcome = .passed →
    ∀ file ∈ own, replay names asked (rolePath base trigger file) = none
  /-- The last name was given before it is taken away, so this is no removal of a leftover. -/
  removal : ∀ before one after, asked = before ++ one :: after →
    one.call = .unlink (rolePath base trigger last) →
    (∃ earlier ∈ before, earlier.Places (rolePath base trigger last)) →
    after = [] ∧ ChecksHeld trigger base asked before

theorem Exercised.tidy (exercised : Exercised trigger base privileges result asked)
    (named : names (rolePath base trigger .fixture) = some object) {own : List Role} {last : Role}
    (within : ∀ step ∈ Scenario.steps trigger, ∀ file ∈ step.rebinds, file ∈ own)
    (missing : ∀ file ∈ own, (Scenario.steps trigger).foldl Step.leaves .initial file = .missing)
    (lastly : removedLast last false (Scenario.steps trigger)) :
    Tidy trigger own last base names (Outcome.ofResult result) asked where
  others := by
    rintro before after rfl name other
    refine Asked.replay_of_not_mem fun one member moved => ?_
    obtain ⟨file, owned, rfl⟩ :=
      exercised.rebinds within one (List.mem_append_left _ member) name moved
    exact other file owned rfl
  cleared := by
    intro passed file owned
    have ⟨(), worked⟩ := Outcome.ofResult_eq_passed_iff.1 passed
    have describes := exercised.describes_passed named worked file
    rw [missing file owned] at describes
    exact describes
  removal := fun _ _ _ => exercised.checksHeld lastly

/-- A run that is refused at once is tidy. -/
theorem tidy_nil {own : List Role} {last : Role} (interrupt : Interrupt) :
    Tidy trigger own last base names (Outcome.ofResult (.error interrupt)) [] where
  others := by
    intro before after split name other
    rw [(List.append_eq_nil_iff.1 split.symm).1, Asked.replay_nil]
  cleared := by
    intro passed
    have ⟨_, worked⟩ := Outcome.ofResult_eq_passed_iff.1 passed
    contradiction
  removal := fun before one after split => by simp at split

/-- Before the renaming is over the object has one of the two names. -/
theorem renameSteps_keep {done rest : List Step} (steps : renameSteps = done ++ rest)
    (unfinished : rest ≠ []) :
    let roster := done.foldl Step.leaves .initial
    roster .fixture = .present ∨ roster .renamed = .present := by
  have each : ∀ count < renameSteps.length,
      (renameSteps.take count).foldl Step.leaves .initial .fixture = .present ∨
        (renameSteps.take count).foldl Step.leaves .initial .renamed = .present := by
    decide
  have short : done.length < renameSteps.length := by
    rw [steps, List.length_append]
    exact Nat.lt_add_of_pos_right (List.length_pos_iff.2 unfinished)
  have some := each done.length short
  rw [steps, List.take_left] at some
  exact some

variable {σ : Type} [Kernel σ]

theorem exercise_tidy (privileges : Privileges) (kernel : σ)
    (named : names (rolePath base trigger .fixture) = some object) {own : List Role} {last : Role}
    (within : ∀ step ∈ Scenario.steps trigger, ∀ file ∈ step.rebinds, file ∈ own)
    (missing : ∀ file ∈ own, (Scenario.steps trigger).foldl Step.leaves .initial file = .missing)
    (lastly : removedLast last false (Scenario.steps trigger)) :
    let ran := (exercise trigger base privileges).exec kernel
    Tidy trigger own last base names (Outcome.ofResult ran.value) (Trace.asked ran.record) := by
  have course := exercised_or_refused trigger base privileges kernel
  dsimp only
  generalize (exercise trigger base privileges).exec kernel = ran at course ⊢
  rcases course with exercised | ⟨⟨interrupt, failed⟩, nothing⟩
  · exact exercised.tidy named within missing lastly
  · rw [nothing, failed]
    exact tidy_nil interrupt

theorem exercise_describes (privileges : Privileges) (kernel : σ)
    (named : names (rolePath base trigger .fixture) = some object) :
    let ran := (exercise trigger base privileges).exec kernel
    ∀ before after, Trace.asked ran.record = before ++ after →
      (after = [] → Outcome.ofResult ran.value ≠ .passed) →
      ∃ done rest, rest ≠ [] ∧ Scenario.steps trigger = done ++ rest ∧
        (done.foldl Step.leaves .initial).Describes object (rolePath base trigger)
          (replay names before) := by
  have course := exercised_or_refused trigger base privileges kernel
  dsimp only
  generalize (exercise trigger base privileges).exec kernel = ran at course ⊢
  intro before after split unfinished
  rcases course with exercised | ⟨_, nothing⟩
  · exact exercised.describes_before named split fun ended worked =>
      unfinished ended (Outcome.ofResult_eq_passed_iff.2 ⟨(), worked⟩)
  · rw [nothing] at split
    rw [(List.append_eq_nil_iff.1 split.symm).1]
    exact ⟨[], _, steps_ne_nil trigger, rfl, Roster.describes_initial named⟩

end

/-- Whatever the kernel answers, replayed over any names that the fixture is among. Linking keeps
the name of the fixture, renaming keeps the object under one of two names until the run has passed,
and either tidies up, last of all and only when every check has held. -/
theorem object_kept {σ : Type} [Kernel σ] {Object : Type} (object : Object)
    (names : Path → Option Object) (base : Path) (privileges : Privileges) (kernel : σ) :
    (names (rolePath base .linkCreation .fixture) = some object →
      let ran := (exercise .linkCreation base privileges).exec kernel
      let asked := Trace.asked ran.record
      Tidy .linkCreation [.hardlink, .secondHardlink] .secondHardlink base names
        (Outcome.ofResult ran.value) asked ∧
      ∀ before after, asked = before ++ after →
        replay names before (rolePath base .linkCreation .fixture) = some object) ∧
    (names (rolePath base .rename .fixture) = some object →
      let ran := (exercise .rename base privileges).exec kernel
      let asked := Trace.asked ran.record
      Tidy .rename [.fixture, .renamed] .renamed base names (Outcome.ofResult ran.value) asked ∧
      ∀ before after, asked = before ++ after →
        (after = [] → Outcome.ofResult ran.value ≠ .passed) →
        replay names before (rolePath base .rename .fixture) = some object ∨
          replay names before (rolePath base .rename .renamed) = some object) := by
  refine ⟨fun named => ?_, fun named => ?_⟩
  · rw [and_iff_left_of_imp]
    · exact exercise_tidy privileges kernel named (by decide) (by decide) (by decide)
    intro tidy before after split
    rw [tidy.others before after split, named]
    intro file owned same
    have alike := rolePath_injective base .linkCreation same
    rw [← alike] at owned
    exact absurd owned (by decide)
  · refine ⟨exercise_tidy privileges kernel named (by decide) (by decide) (by decide), ?_⟩
    intro before after split unfinished
    obtain ⟨done, rest, some, steps, describes⟩ :=
      exercise_describes privileges kernel named before after split unfinished
    refine (renameSteps_keep steps some).imp (fun present => ?_) fun present => ?_
    · have found := describes .fixture
      rw [present] at found
      exact found
    · have found := describes .renamed
      rw [present] at found
      exact found

/-- Where every name is one of the object already, and a run ends at the first look that follows its
change, the fixture keeps its name if it is linked, and has the new one alone if it is renamed. -/
theorem object_kept_by_runs_cut_off :
    let names : Path → Option Nat := fun _ => some 7
    let links : Script := ⟨List.replicate 5 (.grant {}) ++ [.refuse .enoent], 1000⟩
    let moves : Script := ⟨List.replicate 4 (.grant {}) ++ [.refuse .enoent], 1000⟩
    let linked := (exercise .linkCreation "/lower" ⟨1000, false, false⟩).exec links
    let moved := (exercise .rename "/lower" ⟨1000, false, false⟩).exec moves
    names (rolePath "/lower" .linkCreation .fixture) = some 7 ∧
      replay names (Trace.asked linked.record) (rolePath "/lower" .linkCreation .fixture) =
        some 7 ∧
      names (rolePath "/lower" .rename .fixture) = some 7 ∧
      replay names (Trace.asked moved.record) (rolePath "/lower" .rename .fixture) = none ∧
      replay names (Trace.asked moved.record) (rolePath "/lower" .rename .renamed) = some 7 := by
  intro names links moves linked moved
  have linking := ((object_kept 7 names "/lower" ⟨1000, false, false⟩ links).1 rfl).2
  have moving := ((object_kept 7 names "/lower" ⟨1000, false, false⟩ moves).2 rfl).2
  have vacated : replay names (Trace.asked moved.record) (rolePath "/lower" .rename .fixture) =
      none := by decide +kernel
  have failed : Outcome.ofResult moved.value ≠ .passed := by decide +kernel
  have kept := moving _ [] (List.append_nil _).symm fun _ => failed
  refine ⟨rfl, linking _ [] (List.append_nil _).symm, rfl, vacated, kept.resolve_left ?_⟩
  rw [vacated]
  nofun

end Scenario

end CopyUp
