import CopyUp.Proofs.Scenes

/-!
# The course of a scenario

Everything that a scenario can do, as a relation between its result and its asked calls: one case
for each way in which a step can end, steps done in turn, and the beginning before the first step.
What is proved of this relation is proved of every run over every kernel.
-/

namespace CopyUp

/-- Items are done in turn, up to the first that goes wrong. -/
inductive InTurn {ε α : Type} (does : α → Except ε Unit → List Asked → Prop) :
    List α → Except ε Unit → List Asked → Prop
  | done : InTurn does [] (.ok ()) []
  | stops {item : α} {rest : List α} {error : ε} {asked : List Asked}
      (failed : does item (.error error) asked) :
      InTurn does (item :: rest) (.error error) asked
  | goes {item : α} {rest : List α} {result : Except ε Unit} {asked more : List Asked}
      (worked : does item (.ok ()) asked) (later : InTurn does rest result more) :
      InTurn does (item :: rest) result (asked ++ more)

theorem InTurn.forall_mem {ε α : Type} {does : α → Except ε Unit → List Asked → Prop}
    {good : Asked → Prop} {items : List α} {result : Except ε Unit} {asked : List Asked}
    (inTurn : InTurn does items result asked)
    (each : ∀ item ∈ items, ∀ result asked, does item result asked → ∀ one ∈ asked, good one) :
    ∀ one ∈ asked, good one := by
  induction inTurn with
  | done => simp
  | stops failed => exact each _ (by simp) _ _ failed
  | goes worked _ ih =>
      have rest := ih fun later member => each later (by simp [member])
      exact List.forall_mem_append.2 ⟨each _ (by simp) _ _ worked, rest⟩

theorem Attempt.ensures_forM {σ ε α : Type} [Kernel σ] {items : List α}
    {body : α → Attempt σ ε PUnit} {does : α → Except ε Unit → List Asked → Prop}
    (each : ∀ item ∈ items, (body item).Ensures (does item)) :
    (items.forM body).Ensures (InTurn does items) := by
  induction items with
  | nil => exact .pure .done
  | cons item rest ih =>
      rw [List.forM_eq_forM, List.forM_cons]
      refine (each item (by simp)).bind (fun _ _ => .stops) fun _ asked worked => ?_
      exact (ih fun later member => each later (by simp [member])).mono fun _ _ => .goes worked

namespace Scenario

/-- What a check comes to. -/
inductive Checked (snapshot : Snapshot) (path : Path) (after : String) :
    Check → Except Failure Unit → List Asked → Prop
  | stable {reply : Except Errno Metadata} :
      Checked snapshot path after .stable (snapshot.named "stat" path after reply)
        [⟨.identity, ⟨.stat path, reply⟩⟩]
  | stableLink {reply : Except Errno Metadata} :
      Checked snapshot path after .stableLink (snapshot.named "lstat" path after reply)
        [⟨.identity, ⟨.lstat path, reply⟩⟩]
  | notByPath {reply : Except Errno Metadata} {failure : Failure}
      (judged : snapshot.named "stat" path after reply = .error failure) :
      Checked snapshot path after .stableAll (.error failure) [⟨.identity, ⟨.stat path, reply⟩⟩]
  | notByLink {reply link : Except Errno Metadata} {failure : Failure}
      (judged : snapshot.named "stat" path after reply = .ok ())
      (linked : snapshot.named "lstat" path after link = .error failure) :
      Checked snapshot path after .stableAll (.error failure)
        [⟨.identity, ⟨.stat path, reply⟩⟩, ⟨.identity, ⟨.lstat path, link⟩⟩]
  | notOpened {reply link : Except Errno Metadata} {errno : Errno} {opening : List Asked}
      (judged : snapshot.named "stat" path after reply = .ok ())
      (linked : snapshot.named "lstat" path after link = .ok ())
      (answered : Answered .acquire (.openFile path Snapshot.handleFlags) (.error errno) opening) :
      Checked snapshot path after .stableAll (.error (.call "open(O_PATH)" (.os errno)))
        (⟨.identity, ⟨.stat path, reply⟩⟩ :: ⟨.identity, ⟨.lstat path, link⟩⟩ :: opening)
  | byHandle {reply link handle : Except Errno Metadata} {fd : Descriptor}
      {closed : Except Errno Unit} {opening : List Asked}
      (judged : snapshot.named "stat" path after reply = .ok ())
      (linked : snapshot.named "lstat" path after link = .ok ())
      (answered : Answered .acquire (.openFile path Snapshot.handleFlags) (.ok fd) opening) :
      Checked snapshot path after .stableAll (snapshot.handled after handle)
        (⟨.identity, ⟨.stat path, reply⟩⟩ :: ⟨.identity, ⟨.lstat path, link⟩⟩ :: opening ++
          [⟨.identity, ⟨.fstat fd, handle⟩⟩, ⟨.release, ⟨.close fd, closed⟩⟩])
  | absent {reply : Except Errno Metadata} :
      Checked snapshot path after .absent (Snapshot.vacated path after reply)
        [⟨.absence, ⟨.stat path, reply⟩⟩]
  | linkCount {minimum : UInt64} {reply : Except Errno Metadata} :
      Checked snapshot path after (.linkCount minimum)
        (Snapshot.counted path minimum after reply) [⟨.linkCount, ⟨.stat path, reply⟩⟩]

inductive OpenPerformed (scene : Scene) (fd : Descriptor) :
    OpenStep → Except Interrupt Unit → List Asked → Prop
  | change {change : OpenChange} {result : Except IoError Unit} {asked : List Asked}
      (applied : change.Applied scene.owner fd result asked) :
      OpenPerformed scene fd (.change change)
        (judged scene.privileges scene.trigger change.operation result) asked
  | stable {after : String} {reply : Except Errno Metadata} :
      OpenPerformed scene fd (.stable after)
        ((scene.snapshot.handled after reply).mapError .fail) [⟨.identity, ⟨.fstat fd, reply⟩⟩]

inductive Performed (scene : Scene) : Step → Except Interrupt Unit → List Asked → Prop
  | removeStale {file : Role} {reply : Except Errno Unit} :
      Performed scene (.removeStale file)
        (((FileSystem.removed reply).mapError (.call "unlink")).mapError .fail)
        [⟨.stale, ⟨.unlink (scene.path file), reply⟩⟩]
  | change {change : PathChange} {file : Role}
      {reply : Except Errno (change.call scene.path scene.owner file).Reply} {asked : List Asked}
      (answered : Answered .change (change.call scene.path scene.owner file) reply asked) :
      Performed scene (.change change file)
        (judged scene.privileges scene.trigger change.operation (succeeded reply)) asked
  | check {check : Check} {file : Role} {after : String} {result : Except Failure Unit}
      {asked : List Asked}
      (checked : Checked scene.snapshot (scene.path file) after check result asked) :
      Performed scene (.check check file after) (result.mapError .fail) asked
  | notOpened {access : Access} {steps : List OpenStep} {errno : Errno} {opening : List Asked}
      (answered : Answered .acquire (.openFile (scene.path .fixture) access.flags) (.error errno)
        opening) :
      Performed scene (.opened access steps)
        (.error (.fail (.call access.operation (.os errno)))) opening
  | opened {access : Access} {steps : List OpenStep} {fd : Descriptor}
      {result : Except Interrupt Unit} {closed : Except Errno Unit} {opening used : List Asked}
      (answered : Answered .acquire (.openFile (scene.path .fixture) access.flags) (.ok fd)
        opening)
      (inTurn : InTurn (OpenPerformed scene fd) steps result used) :
      Performed scene (.opened access steps) result
        (opening ++ used ++ [⟨.release, ⟨.close fd, closed⟩⟩])
  | cleanUp {file : Role} {reply : Except Errno Unit} :
      Performed scene (.cleanUp file)
        (((succeeded reply).mapError (.call "unlink")).mapError .fail)
        [⟨.cleanUp, ⟨.unlink (scene.path file), reply⟩⟩]

inductive Exercised (trigger : Trigger) (base : Path) (privileges : Privileges) :
    Except Interrupt Unit → List Asked → Prop
  | unresolved {interrupt : Interrupt} {asked : List Asked}
      (resolved : Fixture.Resolved base trigger (.error interrupt) asked) :
      Exercised trigger base privileges (.error interrupt) asked
  | ownerless {snapshot : Snapshot} {failure : Failure} {asked : List Asked}
      {reply : Except Errno Metadata}
      (resolved : Fixture.Resolved base trigger (.ok snapshot) asked)
      (failed : owned (base.join trigger.fixture) reply = .error failure)
      (reads : readsOwner trigger) :
      Exercised trigger base privileges (.error (.fail failure))
        (asked ++ [⟨.owner, ⟨.stat (base.join trigger.fixture), reply⟩⟩])
  | steps {snapshot : Snapshot} {owner : Owner} {result : Except Interrupt Unit}
      {asked asking more : List Asked}
      (resolved : Fixture.Resolved base trigger (.ok snapshot) asked)
      (known : asking = [] ∨ ∃ reply,
        asking = [⟨.owner, ⟨.stat (base.join trigger.fixture), reply⟩⟩] ∧
          owned (base.join trigger.fixture) reply = .ok owner ∧ readsOwner trigger)
      (inTurn : InTurn (Performed ⟨base, privileges, trigger, snapshot, owner⟩) (steps trigger)
        result more)
      (asks : readsOwner trigger → asking ≠ []) :
      Exercised trigger base privileges result (asked ++ asking ++ more)

/-! ## What was done if it worked -/

theorem Checked.stable_ok {snapshot : Snapshot} {path : Path} {after : String}
    {asked : List Asked} (checked : Checked snapshot path after .stable (.ok ()) asked) :
    ∃ metadata, metadata.identity = snapshot.expected ∧
      asked = [⟨.identity, ⟨.stat path, .ok metadata⟩⟩] := by
  generalize same : (Except.ok () : Except Failure Unit) = result at checked
  cases checked with
  | stable =>
      obtain ⟨metadata, rfl, identity⟩ := Snapshot.named_eq_ok_iff.1 ⟨(), same.symm⟩
      exact ⟨metadata, identity, rfl⟩

theorem Checked.stableAll_ok {snapshot : Snapshot} {path : Path} {after : String}
    {asked : List Asked} (checked : Checked snapshot path after .stableAll (.ok ()) asked) :
    ∃ metadata more, metadata.identity = snapshot.expected ∧
      asked = ⟨.identity, ⟨.stat path, .ok metadata⟩⟩ :: more := by
  generalize same : (Except.ok () : Except Failure Unit) = result at checked
  cases checked with
  | notByPath | notByLink | notOpened => contradiction
  | byHandle judged =>
      obtain ⟨metadata, rfl, identity⟩ := Snapshot.named_eq_ok_iff.1 ⟨(), judged⟩
      exact ⟨metadata, _, identity, rfl⟩

namespace OpenPerformed

variable {scene : Scene} {fd : Descriptor} {asked : List Asked}

theorem change_ok {change : OpenChange}
    (performed : OpenPerformed scene fd (.change change) (.ok ()) asked) :
    change.Applied scene.owner fd (.ok ()) asked := by
  generalize same : (Except.ok () : Except Interrupt Unit) = result at performed
  cases performed with
  | change applied =>
      rw [judged_eq_ok_iff.1 same.symm] at applied
      exact applied

theorem stable_ok {after : String}
    (performed : OpenPerformed scene fd (.stable after) (.ok ()) asked) :
    ∃ metadata, metadata.identity = scene.snapshot.expected ∧
      asked = [⟨.identity, ⟨.fstat fd, .ok metadata⟩⟩] := by
  generalize same : (Except.ok () : Except Interrupt Unit) = result at performed
  cases performed with
  | @stable _ reply =>
      cases judged : scene.snapshot.handled after reply with
      | ok value =>
          obtain ⟨metadata, rfl, identity⟩ := Snapshot.handled_eq_ok_iff.1 ⟨value, judged⟩
          exact ⟨metadata, identity, rfl⟩
      | error =>
          rw [judged] at same
          contradiction

end OpenPerformed

namespace Performed

variable {scene : Scene} {asked : List Asked}

theorem change_ok {change : PathChange} {file : Role}
    (performed : Performed scene (.change change file) (.ok ()) asked) :
    ∃ value, Answered .change (change.call scene.path scene.owner file) (.ok value) asked := by
  generalize same : (Except.ok () : Except Interrupt Unit) = result at performed
  cases performed with
  | @change _ _ reply _ answered =>
      have worked := judged_eq_ok_iff.1 same.symm
      cases reply with
      | ok value => exact ⟨value, answered⟩
      | error => contradiction

theorem check_ok {check : Check} {file : Role} {after : String}
    (performed : Performed scene (.check check file after) (.ok ()) asked) :
    Checked scene.snapshot (scene.path file) after check (.ok ()) asked := by
  generalize same : (Except.ok () : Except Interrupt Unit) = result at performed
  cases performed with
  | @check _ _ _ judged _ checked =>
      cases judged with
      | ok => exact checked
      | error => contradiction

theorem opened_ok {access : Access} {steps : List OpenStep}
    (performed : Performed scene (.opened access steps) (.ok ()) asked) :
    ∃ fd opening used closed,
      Answered .acquire (.openFile (scene.path .fixture) access.flags) (.ok fd) opening ∧
        InTurn (OpenPerformed scene fd) steps (.ok ()) used ∧
          asked = opening ++ used ++ [⟨.release, ⟨.close fd, closed⟩⟩] := by
  generalize same : (Except.ok () : Except Interrupt Unit) = result at performed
  cases performed with
  | notOpened => contradiction
  | opened answered inTurn => exact ⟨_, _, _, _, answered, same ▸ inTurn, rfl⟩

end Performed

variable {σ : Type} [Kernel σ]

theorem ensures_stableAll (snapshot : Snapshot) {path : Path} (plain : ¬ path.HasNul)
    (after : String) :
    (snapshot.stableAll (σ := σ) path after).Ensures (Checked snapshot path after .stableAll) := by
  refine (Snapshot.asksOnce_stable snapshot plain after).ensures_bind ?_ ?_
  · intro reply failure judged
    exact .notByPath judged
  intro reply _ judged
  refine (Snapshot.asksOnce_stableLink snapshot plain after).ensures_bind ?_ ?_
  · intro link failure linked
    exact .notByLink judged linked
  intro link _ linked
  have opens := (FileSystem.opens_issue (σ := σ) plain Snapshot.handleFlags).explain
    (Failure.call "open(O_PATH)")
  refine opens.ensures_withFile ?_ ?_
  · intro errno opening answered
    exact .notOpened judged linked answered
  · intro fd opening answered
    refine (Snapshot.asksOnce_stableOpen snapshot fd after).ensures_each fun handle closed => ?_
    simpa using Checked.byHandle judged linked answered

namespace Scene

variable {scene : Scene}

theorem ensures_check (clean : ¬ scene.base.HasNul) (check : Check) (file : Role)
    (after : String) :
    (scene.check (σ := σ) check file after).Ensures
      (Checked scene.snapshot (scene.path file) after check) := by
  have plain := scene.not_hasNul_path clean file
  cases check with
  | stable => exact (Snapshot.asksOnce_stable _ plain after).ensures_each fun _ => .stable
  | stableLink =>
      exact (Snapshot.asksOnce_stableLink _ plain after).ensures_each fun _ => .stableLink
  | stableAll => exact ensures_stableAll _ plain after
  | absent => exact (Snapshot.asksOnce_absent plain after).ensures_each fun _ => .absent
  | linkCount minimum =>
      exact (Snapshot.asksOnce_linkCount plain minimum after).ensures_each fun _ => .linkCount

theorem ensures_performOpen (fd : Descriptor) (step : OpenStep) :
    (scene.performOpen (σ := σ) fd step).Ensures (OpenPerformed scene fd step) := by
  cases step with
  | change change =>
      exact scene.ensures_judge _ ((change.ensures_apply scene.owner fd).mono fun _ _ => .change)
  | stable after =>
      have looks := (Snapshot.asksOnce_stableOpen (σ := σ) scene.snapshot fd after).explain
        Interrupt.fail
      exact looks.ensures_each fun _ => .stable

theorem ensures_perform (clean : ¬ scene.base.HasNul) (step : Step) :
    (scene.perform (σ := σ) step).Ensures (Performed scene step) := by
  have plain := scene.not_hasNul_path clean
  cases step with
  | removeStale file =>
      have removes := ((FileSystem.asksOnce_removeStale (σ := σ) (plain file)).explain
        (Failure.call "unlink")).explain Interrupt.fail
      exact removes.ensures_each fun _ => .removeStale
  | change change file =>
      have named := change.not_hasNul_paths plain scene.owner file
      refine scene.ensures_judge _ ((ensures_discard_issue .change named).mono ?_)
      intro result asked told
      obtain ⟨reply, rfl, answered⟩ := told
      exact .change answered
  | check check file after =>
      exact ((ensures_check clean check file after).mono fun _ _ => .check).explain
  | opened access steps =>
      have opens := ((FileSystem.opens_issue (σ := σ) (plain .fixture) access.flags).explain
        (Failure.call access.operation)).explain Interrupt.fail
      refine opens.ensures_withFile (fun _ _ => .notOpened) fun fd opening answered => ?_
      refine (Attempt.ensures_forM fun step _ => ensures_performOpen fd step).mono ?_
      exact fun result used inTurn closed => .opened answered inTurn
  | cleanUp file =>
      have named : ∀ path ∈ (Call.unlink (scene.path file)).paths, ¬ path.HasNul := by
        simpa [Call.paths] using plain file
      have removes := FileSystem.asksOnce_issue (σ := σ) .cleanUp named (by simp [Call.restarts])
      have judged := (removes.discard.explain (Failure.call "unlink")).explain Interrupt.fail
      exact judged.ensures_each fun _ => .cleanUp

end Scene

/-- Over every kernel a scenario takes one of its courses. -/
theorem ensures_exercised (trigger : Trigger) {base : Path} (privileges : Privileges)
    (clean : ¬ base.HasNul) :
    (exercise (σ := σ) trigger base privileges).Ensures (Exercised trigger base privileges) := by
  have plain := not_hasNul_fixture clean trigger
  refine (Fixture.ensures_resolve trigger plain).bind (fun _ _ => .unresolved) ?_
  intro snapshot asked resolved
  refine (ensures_ownerFor trigger plain).bind ?_ ?_
  · intro interrupt asking known
    rcases known with ⟨impossible, _⟩ | ⟨reply, failed, rfl, reads⟩
    · contradiction
    · obtain ⟨failure, owner, rfl⟩ := Attempt.mapError_eq_error_iff.1 failed.symm
      exact .ownerless resolved owner reads
  · intro owner asking known
    refine (Attempt.ensures_forM fun step _ => Scene.ensures_perform clean step).mono ?_
    intro result more inTurn
    rw [← List.append_assoc]
    rcases known with ⟨_, rfl, plain⟩ | ⟨reply, same, rfl, reads⟩
    · exact .steps resolved (.inl rfl) inTurn fun reads => absurd reads plain
    · have found := Attempt.mapError_eq_ok_iff.1 same.symm
      exact .steps resolved (.inr ⟨reply, rfl, found, reads⟩) inTurn fun _ => by simp

end Scenario

end CopyUp
