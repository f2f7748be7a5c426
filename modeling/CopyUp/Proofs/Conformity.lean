import CopyUp.Proofs.Completion
import CopyUp.Proofs.PlainVolume
import CopyUp.Proofs.Roster

/-!
# Scenarios over a plain volume

A scenario over a plain volume passes if its fixture is there, whatever else there is, and is
skipped if not. It leaves the names behind that it found, less those that its steps take away.
-/

namespace CopyUp

variable {σ Object : Type} [Kernel σ] {view : σ → Volume Object} {before : Volume Object}
  {object : Object}

/-- Names and numbers stay the same; files may have been opened and closed. -/
structure Volume.Steady (before after : Volume Object) : Prop where
  names : after.names = before.names
  number : after.number = before.number

/-! ## Open files -/

namespace FileSystem

theorem works_opening (mounts : Mounts view) {path : Path} (named : before.names path = some object)
    {flags : OpenFlags} (usual : flags.directory = false) :
    (issue .acquire (.openFile path flags)).Works view before fun fd between =>
      between = before.hold fd (some ⟨object, before.number object⟩) := by
  have plain := Volume.plain_of_named named
  apply works_issue mounts .acquire (by simpa [Call.paths] using plain)
  exact fun _ _ serves => serves.openFile_of_named named usual

/-- What is done through an open file leaves names and numbers alone if it leaves the volume alone
while the file is open. -/
theorem works_opened {ε : Type} (mounts : Mounts view) {acquire : Attempt σ ε Descriptor}
    {body : Descriptor → Attempt σ ε Unit}
    (opens : acquire.Works view before fun fd between =>
      between = before.hold fd (some ⟨object, before.number object⟩))
    (works : ∀ fd between, between.handles fd = some ⟨object, before.number object⟩ →
      between.number = before.number → (body fd).Works view between fun _ used => used = between) :
    (withFile acquire body).Works view before fun _ left => before.Steady left := by
  apply works_withFile mounts opens
  rintro fd _ rfl
  apply (works fd _ (Volume.handles_hold_self ..) rfl).mono
  rintro _ _ rfl
  exact ⟨⟨_, Volume.handles_hold_self ..⟩, rfl, rfl⟩

end FileSystem

/-! ## Checks -/

namespace Snapshot

variable {snapshot : Snapshot} {path : Path}

theorem named_of_serves (query : Query) {word after : String} {reply : Except Errno Metadata}
    {left : Volume Object} (serves : Serves before (query.exchange path reply) left)
    (named : before.names path = some object) (number : before.number object = snapshot.expected) :
    ∃ value, snapshot.named word path after reply = .ok value ∧ left = before := by
  obtain ⟨same, metadata, rfl, shows⟩ := serves.query_of_named query named
  obtain ⟨value, passed⟩ := named_eq_ok_iff.2 ⟨metadata, rfl, shows.identity.trans number⟩
  exact ⟨value, passed, same⟩

theorem works_stable (mounts : Mounts view) (named : before.names path = some object)
    (number : before.number object = snapshot.expected) (after : String) :
    (snapshot.stable path after).Works view before fun _ left => left = before := by
  apply (asksOnce_stable snapshot (Volume.plain_of_named named) after).works mounts
  exact fun reply left serves => named_of_serves .stat serves named number

theorem works_stableLink (mounts : Mounts view) (named : before.names path = some object)
    (number : before.number object = snapshot.expected) (after : String) :
    (snapshot.stableLink path after).Works view before fun _ left => left = before := by
  apply (asksOnce_stableLink snapshot (Volume.plain_of_named named) after).works mounts
  exact fun reply left serves => named_of_serves .lstat serves named number

theorem works_stableOpen (mounts : Mounts view) {fd : Descriptor}
    (held : before.handles fd = some ⟨object, snapshot.expected⟩)
    (number : before.number object = snapshot.expected) (after : String) :
    (snapshot.stableOpen fd after).Works view before fun _ left => left = before := by
  apply (asksOnce_stableOpen snapshot fd after).works mounts
  intro reply left serves
  obtain ⟨same, metadata, rfl, reports⟩ :=
    (serves.answers_of_held held rfl rfl rfl).fstat_of_held held
  have identity : metadata.identity = snapshot.expected := by
    rcases reports with told | told
    · exact told
    · exact told.trans number
  obtain ⟨value, passed⟩ := handled_eq_ok_iff.2 ⟨metadata, rfl, identity⟩
  exact ⟨value, passed, same⟩

theorem works_stableAll (mounts : Mounts view) (named : before.names path = some object)
    (number : before.number object = snapshot.expected) (after : String) :
    (snapshot.stableAll path after).Works view before fun _ left => before.Steady left := by
  apply (works_stable mounts named number after).bind
  rintro _ _ rfl
  apply (works_stableLink mounts named number after).bind
  rintro _ _ rfl
  apply FileSystem.works_opened mounts (FileSystem.works_opening mounts named rfl).explain
  intro fd between held kept
  rw [number] at held
  exact works_stableOpen mounts held (by rw [kept, number]) after

theorem works_absent (mounts : Mounts view) (plain : ¬ path.HasNul)
    (missing : before.names path = none) (after : String) :
    (absent path after).Works view before fun _ left => left = before := by
  apply (asksOnce_absent plain after).works mounts
  intro reply left serves
  obtain ⟨same, rfl⟩ := serves.stat_of_missing plain missing
  exact ⟨(), rfl, same⟩

theorem works_linkCount (mounts : Mounts view) {other : Path} {minimum : UInt64}
    (named : before.names path = some object) (another : before.names other = some object)
    (distinct : path ≠ other) (few : minimum ≤ 2) (after : String) :
    (linkCount path minimum after).Works view before fun _ left => left = before := by
  apply (asksOnce_linkCount (Volume.plain_of_named named) minimum after).works mounts
  intro reply left serves
  obtain ⟨same, metadata, rfl, shows⟩ := serves.query_of_named .stat named
  have two := shows.linked path other distinct named another
  obtain ⟨value, passed⟩ := counted_eq_ok_iff.2 ⟨metadata, rfl, UInt64.le_trans few two⟩
  exact ⟨value, passed, same⟩

end Snapshot

namespace Scenario

variable {scene : Scene} {roster : Roster}

theorem works_check (mounts : Mounts view) (agrees : Agrees before object scene.path roster)
    (clean : ¬ scene.base.HasNul) (number : before.number object = scene.snapshot.expected)
    {check : Check} {file : Role} (expects : check.expects roster file) (after : String) :
    (scene.check check file after).Works view before fun _ left => before.Steady left := by
  have steady : ∀ left : Volume Object, left = before → before.Steady left := by
    rintro _ rfl
    exact ⟨rfl, rfl⟩
  cases check with
  | stable =>
      have named := agrees.present file (of_decide_eq_true expects)
      exact (Snapshot.works_stable mounts named number after).mono fun _ => steady
  | stableLink =>
      have named := agrees.present file (of_decide_eq_true expects)
      exact (Snapshot.works_stableLink mounts named number after).mono fun _ => steady
  | stableAll =>
      have named := agrees.present file (of_decide_eq_true expects)
      exact Snapshot.works_stableAll mounts named number after
  | absent =>
      have missing := agrees.missing file (of_decide_eq_true expects)
      have plain := scene.not_hasNul_path clean file
      exact (Snapshot.works_absent mounts plain missing after).mono fun _ => steady
  | linkCount minimum =>
      simp only [Check.expects, Bool.and_eq_true, decide_eq_true_eq] at expects
      obtain ⟨⟨few, here⟩, another⟩ := expects
      have named := agrees.present file here
      obtain ⟨other, distinct, there⟩ := agrees.exists_another scene.path_injective another
      exact (Snapshot.works_linkCount mounts named there distinct few after).mono fun _ => steady

/-! ## Changes -/

omit [Kernel σ] in
theorem works_judge (scene : Scene) (operation : String) {change : Attempt σ IoError Unit}
    {post : Unit → Volume Object → Prop} (works : change.Works view before post) :
    (scene.judge operation change).Works view before post := by
  apply works.settle.bind
  rintro _ between ⟨value, rfl, holds⟩
  intro kernel same
  obtain ⟨result, state, _⟩ := silent_judge scene.privileges scene.trigger operation (.ok ()) kernel
  rw [result, state, same]
  exact ⟨(), judged_eq_ok_iff.2 rfl, holds⟩

theorem works_issueChange (mounts : Mounts view) {call : Call}
    {post : Unit → Volume Object → Prop} (clean : ∀ path ∈ call.paths, ¬ path.HasNul)
    (each : ∀ reply after, Serves before ⟨call, reply⟩ after →
      ∃ value, reply = .ok value ∧ post () after) :
    (issueChange call).Works view before post :=
  (FileSystem.works_issue mounts .change clean each).discard

theorem OpenChange.works_apply (mounts : Mounts view) (owner : Owner) {fd : Descriptor}
    {handle : Handle Object} (held : before.handles fd = some handle) (change : OpenChange) :
    (change.apply owner fd).Works view before fun _ after => after = before := by
  have alters : ∀ call : Call, call.paths = [] → call.descriptor? = some fd →
      call.alteredThrough? = some fd → call.unusual = false →
        (issueChange call).Works view before fun _ after => after = before := by
    intro call none through alters usual
    apply works_issueChange mounts (by simp [none])
    intro reply after serves
    obtain ⟨same, value, told⟩ :=
      (serves.answers_of_held held none through usual).alteredThrough_ok alters
    exact ⟨value, told, same⟩
  cases change with
  | write | pwrite => exact FileSystem.works_writeAll mounts .change held _ _
  | ftruncate | fchmod | fchown | futimens | fsetxattr | fremovexattr | fallocate =>
      exact alters _ rfl rfl rfl rfl

theorem works_performOpen (mounts : Mounts view) {fd : Descriptor}
    (held : before.handles fd = some ⟨object, scene.snapshot.expected⟩)
    (number : before.number object = scene.snapshot.expected) (step : OpenStep) :
    (scene.performOpen fd step).Works view before fun _ left => left = before := by
  cases step with
  | change change => exact works_judge scene _ (change.works_apply mounts scene.owner held)
  | stable after => exact (Snapshot.works_stableOpen mounts held number after).explain

/-! ## Effects on names -/

/-- The names after a change through a name. -/
def PathChange.effect (path : Role → Path) (file : Role) (names : Path → Option Object) :
    PathChange → Path → Option Object
  | rename target => Function.update (Function.update names (path file) none) (path target)
      (names (path file))
  | link target => Function.update names (path target) (names (path file))
  | unlink => Function.update names (path file) none
  | _ => names

def Step.effect (path : Role → Path) (names : Path → Option Object) : Step → Path → Option Object
  | removeStale file | cleanUp file => Function.update names (path file) none
  | .change made file => made.effect path file names
  | .check .. | opened .. => names

theorem names_assign (volume : Volume Object) {path : Path} (plain : ¬ path.HasNul)
    (object? : Option Object) :
    (volume.assign path object?).names = Function.update volume.names path object? := by
  funext other
  by_cases same : other = path
  · rw [same, volume.names_assign_self plain, Function.update_self]
  · rw [volume.names_assign_of_ne same, Function.update_of_ne same]

section

variable {path : Role → Path} {following : Roster} {after : Volume Object}

/-- The roster foresees what a step does to the names. -/
theorem agrees_of_effect (agrees : Agrees before object path roster)
    (distinct : Function.Injective path) (plain : ∀ file, ¬ (path file).HasNul) {step : Step}
    (next : step.next roster = some following)
    (names : after.names = step.effect path before.names) :
    Agrees after object path following := by
  have vacated : ∀ file, after.names = Function.update before.names (path file) none →
      Agrees after object path (roster.put file .missing) := by
    intro file gone
    exact (agrees.vacate distinct (plain file)).congr
      (gone.trans (names_assign before (plain file) none).symm)
  cases step with
  | removeStale file | cleanUp file =>
      obtain ⟨_, same⟩ := Option.ite_none_right_eq_some.1 next
      cases same
      exact vacated file names
  | change made file =>
      cases made with
      | rename target =>
          obtain ⟨⟨here, _⟩, same⟩ := Option.ite_none_right_eq_some.1 next
          cases same
          apply ((agrees.vacate distinct (plain file)).give distinct (plain target)).congr
          rw [names_assign _ (plain target), names_assign _ (plain file), names]
          simp only [Step.effect, PathChange.effect, agrees.present file here]
      | link target =>
          obtain ⟨⟨here, _⟩, same⟩ := Option.ite_none_right_eq_some.1 next
          cases same
          apply (agrees.give distinct (plain target)).congr
          rw [names_assign _ (plain target), names]
          simp only [Step.effect, PathChange.effect, agrees.present file here]
      | unlink =>
          obtain ⟨_, same⟩ := Option.ite_none_right_eq_some.1 next
          cases same
          exact vacated file names
      | truncate | chmod | chown | lchown | utimes | utimensat | setxattr | lsetxattr
      | removexattr | lremovexattr =>
          obtain ⟨_, same⟩ := Option.ite_none_right_eq_some.1 next
          cases same
          exact agrees.congr names
  | check | opened =>
      obtain ⟨_, same⟩ := Option.ite_none_right_eq_some.1 next
      cases same
      exact agrees.congr names

end

theorem works_pathChange (mounts : Mounts view) {path : Role → Path}
    (plain : ∀ file, ¬ (path file).HasNul) (agrees : Agrees before object path roster)
    {change : PathChange} {file : Role} {following : Roster}
    (next : change.next roster file = some following) (owner : Owner) :
    (issueChange (change.call path owner file)).Works view before fun _ left =>
      left.number = before.number ∧ left.names = change.effect path file before.names := by
  have clean := change.not_hasNul_paths plain owner file
  have own : ∀ reply left, Serves before ⟨change.call path owner file, reply⟩ left →
      Answers before ⟨change.call path owner file, reply⟩ left := by
    intro reply left serves
    have none := change.descriptor?_call path owner file
    have usual : (change.call path owner file).unusual = false := by cases change <;> rfl
    exact serves.answers_of_plain (Volume.not_foreign_of_paths clean none usual)
      (.inl (change.mutates_call ..))
  apply works_issueChange mounts clean
  intro reply left serves
  have answers := own reply left serves
  rw [answers.number_eq]
  cases change with
  | rename target =>
      obtain ⟨⟨here, free⟩, _⟩ := Option.ite_none_right_eq_some.1 next
      have named := agrees.present file here
      obtain ⟨rfl, rfl⟩ := answers.rename_of_named named (agrees.missing target free)
      refine ⟨(), rfl, rfl, ?_⟩
      rw [names_assign _ (plain target), names_assign _ (plain file), PathChange.effect, named]
  | link target =>
      obtain ⟨⟨here, free⟩, _⟩ := Option.ite_none_right_eq_some.1 next
      have named := agrees.present file here
      obtain ⟨rfl, rfl⟩ := answers.link_of_named named (agrees.missing target free)
      refine ⟨(), rfl, rfl, ?_⟩
      rw [names_assign _ (plain target), PathChange.effect, named]
  | unlink =>
      obtain ⟨here, _⟩ := Option.ite_none_right_eq_some.1 next
      have named := agrees.present file here
      rcases answers.unlink_cases with ⟨rfl, rfl⟩ | ⟨_, missing, _⟩
      · exact ⟨(), rfl, rfl, names_assign before (plain file) none⟩
      · exact absurd (named.symm.trans missing) (by simp)
  | truncate | chmod | chown | lchown | utimes | utimensat | setxattr | lsetxattr | removexattr
  | lremovexattr =>
      obtain ⟨here, _⟩ := Option.ite_none_right_eq_some.1 next
      obtain ⟨rfl, value, rfl⟩ := answers.altered_of_named rfl (agrees.present file here)
      exact ⟨value, rfl, rfl, rfl⟩

/-- Removing a name leaves it missing, whether it was there or not. -/
theorem removed_of_serves {path : Path} (plain : ¬ path.HasNul) {reply : Except Errno Unit}
    {left : Volume Object} (serves : Serves before ⟨.unlink path, reply⟩ left) :
    (reply = .ok () ∨ (reply = .error .enoent ∧ before.names path = none)) ∧
      left.number = before.number ∧ left.names = Function.update before.names path none := by
  have own : ¬ before.Foreign (.unlink path) := Serves.own_of_path plain rfl rfl rfl
  rcases (serves.answers_of_plain own (.inl rfl)).unlink_cases with
    ⟨rfl, rfl⟩ | ⟨rfl, missing, rfl⟩
  · exact ⟨.inl rfl, rfl, names_assign before plain none⟩
  · exact ⟨.inr ⟨rfl, missing⟩, rfl, by rw [← missing, Function.update_eq_self]⟩

/-! ## Steps -/

theorem works_perform (mounts : Mounts view) (clean : ¬ scene.base.HasNul)
    (agrees : Agrees before object scene.path roster)
    (number : before.number object = scene.snapshot.expected) {step : Step} {following : Roster}
    (next : step.next roster = some following) :
    (scene.perform step).Works view before fun _ left =>
      left.number = before.number ∧ left.names = step.effect scene.path before.names := by
  have plain := scene.not_hasNul_path clean
  cases step with
  | removeStale file =>
      apply Attempt.Works.explain (Attempt.Works.explain _)
      apply (FileSystem.asksOnce_removeStale (plain file)).works mounts
      intro reply left serves
      obtain ⟨rfl | ⟨rfl, _⟩, moved⟩ := removed_of_serves (plain file) serves
      · exact ⟨(), rfl, moved⟩
      · exact ⟨(), rfl, moved⟩
  | change made file =>
      exact works_judge scene _ (works_pathChange mounts plain agrees next scene.owner)
  | check asked file after =>
      obtain ⟨expects, _⟩ := Option.ite_none_right_eq_some.1 next
      apply (works_check mounts agrees clean number expects after).explain.mono
      exact fun _ _ steady => ⟨steady.number, steady.names⟩
  | opened access steps =>
      obtain ⟨here, _⟩ := Option.ite_none_right_eq_some.1 next
      have opens := FileSystem.works_opening mounts (agrees.present .fixture here)
        (show access.flags.directory = false by cases access <;> rfl)
      apply (FileSystem.works_opened mounts opens.explain.explain _).mono
      · exact fun _ _ steady => ⟨steady.number, steady.names⟩
      · intro fd between held kept
        rw [number] at held
        have still : between.number object = scene.snapshot.expected := by rw [kept, number]
        exact Attempt.Works.forM_still fun step _ => works_performOpen mounts held still step
  | cleanUp file =>
      obtain ⟨here, _⟩ := Option.ite_none_right_eq_some.1 next
      apply Attempt.Works.explain (Attempt.Works.explain _)
      apply Attempt.Works.discard
      have named : ∀ path ∈ (Call.unlink (scene.path file)).paths, ¬ path.HasNul := by
        simpa [Call.paths] using plain file
      apply FileSystem.works_issue mounts .cleanUp named
      intro reply left serves
      obtain ⟨rfl | ⟨_, missing⟩, moved⟩ := removed_of_serves (plain file) serves
      · exact ⟨(), rfl, moved⟩
      · exact absurd ((agrees.present file here).symm.trans missing) (by simp)

def effects (path : Role → Path) (names : Path → Option Object) (steps : List Step) :
    Path → Option Object :=
  steps.foldl (Step.effect path) names

theorem works_steps (mounts : Mounts view) (clean : ¬ scene.base.HasNul)
    (agrees : Agrees before object scene.path roster)
    (number : before.number object = scene.snapshot.expected) {steps : List Step}
    (possible : feasible roster steps) :
    (steps.forM scene.perform).Works view before fun _ left =>
      left.names = effects scene.path before.names steps := by
  -- the roster carries the induction: it tells of every file whether the next step finds it
  induction steps generalizing before roster with
  | nil => exact .pure rfl
  | cons step rest ih =>
      rw [List.forM_eq_forM, List.forM_cons]
      obtain ⟨following, next, onward⟩ := next_of_feasible possible
      apply (works_perform mounts clean agrees number next).bind
      rintro _ between ⟨kept, names⟩
      have agreed := agrees_of_effect agrees scene.path_injective (scene.not_hasNul_path clean)
        next names
      apply (ih agreed (by rw [kept, number]) onward).mono
      intro _ left moved
      rw [moved, names]
      rfl

/-! ## Whole scenarios -/

theorem works_lookup (mounts : Mounts view) (purpose : Purpose) {path : Path}
    (named : before.names path = some object) :
    (FileSystem.lookup purpose path).Works view before fun found left => left = before ∧
      ∃ metadata, found = some metadata ∧ metadata.identity = before.number object := by
  apply (FileSystem.asksOnce_lookup purpose (Volume.plain_of_named named)).works mounts
  intro reply left serves
  obtain ⟨same, metadata, rfl, shows⟩ := serves.query_of_named .stat named
  exact ⟨_, rfl, same, metadata, rfl, shows.identity⟩

theorem works_resolve (mounts : Mounts view) {base : Path} {trigger : Trigger}
    (named : before.names (base.join trigger.fixture) = some object) :
    (Fixture.resolve base trigger).Works view before fun snapshot left =>
      left = before ∧ snapshot.expected = before.number object := by
  unfold Fixture.resolve
  apply (works_lookup mounts .snapshot named).explain.explain.bind
  rintro _ _ ⟨rfl, metadata, rfl, identity⟩
  apply (Snapshot.works_stable mounts named identity.symm "repeated stat").explain.bind
  rintro _ _ rfl
  exact .after_log (.pure ⟨rfl, identity⟩)

theorem works_ownerFor (mounts : Mounts view) (trigger : Trigger) {path : Path}
    (named : before.names path = some object) :
    (ownerFor trigger path).Works view before fun _ left => left = before := by
  unfold ownerFor
  by_cases reads : readsOwner trigger
  · rw [if_pos reads]
    apply Attempt.Works.explain
    unfold readOwner
    apply (works_lookup mounts .owner named).explain.bind
    rintro _ _ ⟨rfl, metadata, rfl, _⟩
    exact .pure rfl
  · rw [if_neg reads]
    exact .pure rfl

theorem works_exercise (mounts : Mounts view) (trigger : Trigger) {base : Path}
    (privileges : Privileges) (named : before.names (base.join trigger.fixture) = some object) :
    (exercise trigger base privileges).Works view before fun _ left =>
      left.names = effects (rolePath base trigger) before.names (steps trigger) := by
  have clean : ¬ base.HasNul := by
    apply Path.not_hasNul_of_join (Role.not_isAbsolute_fileName trigger .fixture)
    exact Volume.plain_of_named named
  unfold exercise
  apply (works_resolve mounts named).bind
  rintro snapshot _ ⟨rfl, number⟩
  apply (works_ownerFor mounts trigger named).bind
  rintro owner still rfl
  let scene : Scene := ⟨base, privileges, trigger, snapshot, owner⟩
  have agrees : Agrees still object scene.path .initial := .initially named
  exact works_steps mounts clean agrees number.symm (feasible_steps trigger)

/-- The names whose files the scenario of a trigger takes away. -/
def cleared (base : Path) (trigger : Trigger) : List Path :=
  (leftovers trigger ++ vacancies trigger).map (rolePath base trigger)

def without (names : Path → Option Object) (gone : List Path) : Path → Option Object :=
  fun path => if path ∈ gone then none else names path

/-- What the steps of a scenario do to the names, taken together. -/
theorem effects_steps (base : Path) (trigger : Trigger) (names : Path → Option Object) :
    effects (rolePath base trigger) names (steps trigger) =
      without names (cleared base trigger) := by
  funext name
  cases trigger with
  | rename =>
      simp only [effects, steps, renameSteps, List.foldl_cons, List.foldl_nil, Step.effect,
        PathChange.effect, without, cleared, leftovers, vacancies, List.cons_append,
        List.nil_append, List.map_cons, List.map_nil, List.mem_cons, List.not_mem_nil, or_false,
        Function.update_apply]
      by_cases renamed : name = rolePath base .rename .renamed <;> simp [renamed]
  | linkCreation =>
      simp only [effects, steps, linkSteps, List.foldl_cons, List.foldl_nil, Step.effect,
        PathChange.effect, without, cleared, leftovers, vacancies, List.cons_append,
        List.nil_append, List.map_cons, List.map_nil, List.mem_cons, List.not_mem_nil, or_false,
        Function.update_apply]
      by_cases first : name = rolePath base .linkCreation .hardlink <;>
        by_cases second : name = rolePath base .linkCreation .secondHardlink <;>
          simp [first, second]
  | contentWrite | sizeChange | permissionChange | ownershipChange | timestampChange
  | attributeSet | spacePreallocate => rfl

/-- A fixture that is missing is asked for once. -/
theorem resolve_of_missing (mounts : Mounts view) (trigger : Trigger) {base : Path}
    (clean : ¬ base.HasNul) {kernel : σ}
    (missing : (view kernel).names (base.join trigger.fixture) = none) :
    ((Fixture.resolve base trigger).exec kernel).value =
        .error (.skip (.fixtureMissing trigger.fixture)) ∧
      view ((Fixture.resolve base trigger).exec kernel).state = view kernel := by
  have plain := not_hasNul_fixture clean trigger
  obtain ⟨kept, told⟩ :=
    (mounts.serves (.stat (base.join trigger.fixture)) kernel).stat_of_missing plain missing
  obtain ⟨found, state, _⟩ := ((FileSystem.asksOnce_lookup .snapshot plain).explain
    (Failure.call "stat")).explain Interrupt.fail kernel
  rw [told] at found
  unfold Fixture.resolve Attempt.must Attempt.strictly
  dsimp only
  obtain ⟨value, after⟩ := Attempt.exec_bind_of_ok _ found
  rw [value, after, state]
  have skips : ∀ severity text, (Attempt.log severity text >>= fun _ =>
      throw (.skip (.fixtureMissing trigger.fixture)) : Attempt σ Interrupt Snapshot).Silent
        (.error (.skip (.fixtureMissing trigger.fixture))) :=
    fun severity text => .after_log (.throw _) severity text
  obtain ⟨skipped, still, _⟩ :=
    skips _ _ (Kernel.answer (.stat (base.join trigger.fixture)) kernel).2
  exact ⟨skipped, (congrArg view still).trans kept⟩

/-- A scenario whose fixture is missing is skipped and leaves everything as it is. -/
theorem exercise_of_missing (mounts : Mounts view) (trigger : Trigger) {base : Path}
    (privileges : Privileges) (clean : ¬ base.HasNul) {kernel : σ}
    (missing : (view kernel).names (base.join trigger.fixture) = none) :
    ((exercise trigger base privileges).exec kernel).value =
        .error (.skip (.fixtureMissing trigger.fixture)) ∧
      view ((exercise trigger base privileges).exec kernel).state = view kernel := by
  obtain ⟨skipped, same⟩ := resolve_of_missing mounts trigger clean missing
  unfold exercise
  obtain ⟨value, after⟩ := Attempt.exec_bind_of_error _ skipped
  rw [value, after]
  exact ⟨rfl, same⟩

end Scenario

end CopyUp
