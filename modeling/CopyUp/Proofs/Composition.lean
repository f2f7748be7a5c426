import CopyUp.Proofs.Descriptors
import CopyUp.Proofs.Purposes
import CopyUp.Proofs.Seeding

/-!
# What attempts are put together from

However many calls an attempt makes, and whatever it does with the answers, it is put together from
log lines and calls that are permitted to it. One induction over this composition then proves a law
of all attempts at once; the rules below follow the ways in which attempts are built, and there is
one statement for each operation and each check.
-/

namespace CopyUp

namespace Session

variable {σ : Type} [Kernel σ]

/-- Sessions put together from log lines and permitted calls. A session whose bound is the patience
of the kernel is one if those with any other bound are. -/
inductive Composed (permits : Call → Prop) : {α : Type} → Session σ α → Prop
  | pure {α : Type} (value : α) : Composed permits (pure value)
  | log (severity : Severity) (text : String) : Composed permits (log severity text)
  | perform {purpose : Purpose} {call : Call} (permitted : permits call) :
      Composed permits (perform purpose call)
  | bind {α β : Type} {session : Session σ α} {next : α → Session σ β}
      (first : Composed permits session) (rest : ∀ value, Composed permits (next value)) :
      Composed permits (session >>= next)
  | unbounded {α : Type} {session : Session σ α} (within : Nat → Session σ α)
      (each : ∀ bound, Composed permits (within bound))
      (enough : ∀ kernel bound, Kernel.patience kernel ≤ bound →
        (within bound).run kernel = session.run kernel) : Composed permits session

namespace Composed

variable {permits weaker : Call → Prop} {α β : Type} {session : Session σ α}

theorem mono (composed : Composed permits session)
    (implies : ∀ call, permits call → weaker call) : Composed weaker session := by
  induction composed with
  | pure value => exact .pure value
  | log severity text => exact .log severity text
  | perform permitted => exact .perform (implies _ permitted)
  | bind _ _ first rest => exact .bind first rest
  | unbounded within _ enough each => exact .unbounded within each enough

protected theorem map (f : α → β) (composed : Composed permits session) :
    Composed permits (f <$> session) := by
  rw [map_eq_pure_bind]
  exact composed.bind fun value => .pure (f value)

/-- Only permitted calls are asked. -/
theorem permits_of_asked (composed : Composed permits session) (kernel : σ) :
    ∀ one ∈ Trace.asked (session.run kernel).record, permits one.call := by
  induction composed generalizing kernel with
  | pure | log => exact fun one member => absurd member List.not_mem_nil
  | @perform purpose call permitted =>
      intro one member
      rw [((answered_perform purpose call kernel).same member).2]
      exact permitted
  | bind _ _ first rest =>
      rw [Recorded.record_bind, Trace.asked_append]
      exact List.forall_mem_append.2 ⟨first kernel, rest _ _⟩
  | unbounded within _ enough each =>
      rw [← enough kernel _ (Nat.le_refl _)]
      exact each _ kernel

end Composed

end Session

namespace Attempt

variable {σ ε δ α β : Type} [Kernel σ]

def Composed (permits : Call → Prop) (attempt : Attempt σ ε α) : Prop :=
  Session.Composed permits attempt.run

namespace Composed

variable {permits : Call → Prop} {attempt : Attempt σ ε α}

protected theorem pure (value : α) : (pure value : Attempt σ ε α).Composed permits :=
  Session.Composed.pure (Except.ok value : Except ε α)

protected theorem throw (error : ε) : (throw error : Attempt σ ε α).Composed permits :=
  Session.Composed.pure (Except.error error : Except ε α)

protected theorem conclude (result : Except ε α) :
    (conclude result : Attempt σ ε α).Composed permits :=
  Session.Composed.pure result

protected theorem log (severity : Severity) (text : String) :
    (log severity text : Attempt σ ε Unit).Composed permits :=
  (Session.Composed.log severity text).map _

protected theorem bind {next : α → Attempt σ ε β} (first : attempt.Composed permits)
    (rest : ∀ value, (next value).Composed permits) : (attempt >>= next).Composed permits := by
  refine Session.Composed.bind first fun result => ?_
  cases result with
  | ok value => exact rest value
  | error error => exact Session.Composed.pure _

protected theorem explain (translate : ε → δ) (composed : attempt.Composed permits) :
    (attempt.explain translate).Composed permits :=
  Session.Composed.map _ composed

protected theorem map (f : α → β) (composed : attempt.Composed permits) :
    (f <$> attempt).Composed permits := by
  rw [map_eq_pure_bind]
  exact composed.bind fun value => .pure (f value)

protected theorem discard (composed : attempt.Composed permits) :
    (discard attempt).Composed permits :=
  composed.map _

theorem bind_settle {next : Except ε α → Attempt σ δ β} (first : attempt.Composed permits)
    (rest : ∀ result, (next result).Composed permits) :
    (attempt.settle >>= next).Composed permits :=
  .bind (Session.Composed.map Except.ok first) rest

protected theorem forM {items : List β} {body : β → Attempt σ ε PUnit}
    (each : ∀ item ∈ items, (body item).Composed permits) : (items.forM body).Composed permits := by
  induction items with
  | nil => exact .pure _
  | cons item rest ih =>
      rw [List.forM_eq_forM, List.forM_cons]
      exact (each item (by simp)).bind fun _ => ih fun later member => each later (by simp [member])

end Composed

end Attempt

/-! ## File operations -/

namespace FileSystem

open Attempt

variable {σ ε α : Type} [Kernel σ] {permits : Call → Prop}

theorem composed_issue {purpose : Purpose} {call : Call} (permitted : permits call) :
    (issue (σ := σ) purpose call).Composed permits := by
  unfold issue
  split
  · exact .throw _
  · exact .explain _ (Session.Composed.perform permitted)

theorem composed_release {fd : Descriptor} (closing : permits (.close fd)) :
    (release fd : Attempt σ ε Unit).Composed permits :=
  (composed_issue closing).bind_settle fun _ => .pure _

theorem composed_withFile {acquire : Attempt σ ε Descriptor} {body : Descriptor → Attempt σ ε α}
    (closing : ∀ fd, permits (.close fd)) (acquired : acquire.Composed permits)
    (works : ∀ fd, (body fd).Composed permits) : (withFile acquire body).Composed permits :=
  acquired.bind fun fd => (works fd).bind_settle fun _ =>
    (composed_release (closing fd)).bind fun _ => .conclude _

theorem composed_unlessMissing {attempt : Attempt σ IoError α}
    (composed : attempt.Composed permits) : (unlessMissing attempt).Composed permits := by
  refine composed.bind_settle fun result => ?_
  cases result with
  | ok value => exact .pure _
  | error error =>
      by_cases missing : error = .os .enoent
      · simp only [missing, if_true]
        exact .pure _
      · simp only [missing, if_false]
        exact .throw _

theorem composed_lookup {purpose : Purpose} {path : Path} (permitted : permits (.stat path)) :
    (lookup (σ := σ) purpose path).Composed permits :=
  composed_unlessMissing (composed_issue permitted)

theorem composed_lookupLink {purpose : Purpose} {path : Path} (permitted : permits (.lstat path)) :
    (lookupLink (σ := σ) purpose path).Composed permits :=
  composed_unlessMissing (composed_issue permitted)

theorem composed_removeStale {path : Path} (permitted : permits (.unlink path)) :
    (removeStale (σ := σ) path).Composed permits :=
  (composed_unlessMissing (composed_issue permitted)).bind fun _ => .pure _

theorem composed_writeWithin {purpose : Purpose} {fd : Descriptor}
    (writing : ∀ part, permits (.write fd part))
    (placing : ∀ part offset, permits (.pwrite fd part offset)) (bound : Nat)
    (place : Placement) (bytes : Bytes) :
    (writeWithin (σ := σ) purpose fd bound place bytes).Composed permits := by
  have offers : ∀ (place : Placement) (bytes : Bytes),
      (offer (σ := σ) purpose fd bytes place).Composed permits := by
    intro place bytes
    cases place with
    | next => exact composed_issue (writing bytes)
    | «at» offset => exact composed_issue (placing bytes offset)
  induction bound generalizing place bytes with
  | zero => cases bytes <;> exact .pure _
  | succ bound ih =>
      cases bytes with
      | nil => exact .pure _
      | cons byte rest =>
          refine (offers place _).bind fun count => ?_
          by_cases none : count = 0
          · simp only [none, if_true]
            exact .throw _
          · simp only [none, if_false]
            exact ih _ _

end FileSystem

/-! ## Checks against a snapshot -/

def Call.Names (own : Path → Prop) (call : Call) : Prop := ∀ path ∈ call.paths, own path

namespace Call.Names

variable {own : Path → Prop} {call : Call} {path : Path}

theorem of_nameless (nameless : call.paths = []) : call.Names own := by
  simp [Names, nameless]

theorem of_single (single : call.paths = [path]) (mine : own path) : call.Names own := by
  simpa [Names, single] using mine

end Call.Names

namespace Snapshot

open FileSystem

variable {σ : Type} [Kernel σ] {own : Path → Prop} {path : Path}

theorem composed_compare (snapshot : Snapshot) (observed : Identity) (after : String) :
    (snapshot.compare observed after : Attempt σ Failure Unit).Composed (Call.Names own) := by
  unfold compare
  by_cases same : observed = snapshot.expected
  · simp only [same, if_true]
    exact .pure _
  · simp only [same, if_false]
    exact .throw _

theorem composed_stable (snapshot : Snapshot) (mine : own path) (after : String) :
    (snapshot.stable (σ := σ) path after).Composed (Call.Names own) := by
  refine ((composed_lookup (.of_single rfl mine)).explain _).bind fun found => ?_
  cases found with
  | none => exact .throw _
  | some metadata => exact .bind (.log _ _) fun _ => snapshot.composed_compare _ _

theorem composed_stableLink (snapshot : Snapshot) (mine : own path) (after : String) :
    (snapshot.stableLink (σ := σ) path after).Composed (Call.Names own) := by
  refine ((composed_lookupLink (.of_single rfl mine)).explain _).bind fun found => ?_
  cases found with
  | none => exact .throw _
  | some metadata => exact .bind (.log _ _) fun _ => snapshot.composed_compare _ _

theorem composed_stableOpen (snapshot : Snapshot) (fd : Descriptor) (after : String) :
    (snapshot.stableOpen (σ := σ) fd after).Composed (Call.Names own) :=
  ((composed_issue (.of_nameless rfl)).explain _).bind fun _ =>
    .bind (.log _ _) fun _ => snapshot.composed_compare _ _

theorem composed_stableAll (snapshot : Snapshot) (mine : own path) (after : String) :
    (snapshot.stableAll (σ := σ) path after).Composed (Call.Names own) := by
  refine (snapshot.composed_stable mine after).bind fun _ => ?_
  refine (snapshot.composed_stableLink mine after).bind fun _ => ?_
  refine composed_withFile (fun _ => .of_nameless rfl) ?_ fun fd => ?_
  · exact (composed_issue (.of_single rfl mine)).explain _
  · exact snapshot.composed_stableOpen fd after

theorem composed_absent (mine : own path) (after : String) :
    (absent (σ := σ) path after).Composed (Call.Names own) := by
  refine ((composed_lookup (.of_single rfl mine)).explain _).bind fun found => ?_
  cases found with
  | none => exact .log _ _
  | some metadata => exact .throw _

theorem composed_linkCount (mine : own path) (minimum : UInt64) (after : String) :
    (linkCount (σ := σ) path minimum after).Composed (Call.Names own) := by
  refine ((composed_lookup (.of_single rfl mine)).explain _).bind fun found => ?_
  cases found with
  | none => exact .throw _
  | some metadata =>
      refine .bind (.log _ _) fun _ => ?_
      by_cases few : metadata.linkCount < minimum
      · simp only [few, if_true]
        exact .throw _
      · simp only [few, if_false]
        exact .pure _

end Snapshot

/-! ## Scenarios -/

namespace Scenario

open FileSystem

/-- The files whose names a change gives to the kernel beside the changed one. -/
def PathChange.others : PathChange → List Role
  | rename target | link target => [target]
  | _ => []

def Step.files : Step → List Role
  | removeStale file | check _ file _ | cleanUp file => [file]
  | change made file => file :: made.others
  | opened .. => [.fixture]

variable {σ : Type} [Kernel σ] {own : Path → Prop}

theorem PathChange.names_call {path : Role → Path} {owner : Owner} {file : Role}
    {change : PathChange} (mine : ∀ role ∈ file :: change.others, own (path role)) :
    (change.call path owner file).Names own := by
  have here := mine file List.mem_cons_self
  cases change with
  | rename target | link target =>
      have there := mine target (List.mem_cons_of_mem _ List.mem_cons_self)
      simp [Call.Names, call, Call.paths, here, there]
  | _ => exact .of_single rfl here

theorem OpenChange.composed_apply (owner : Owner) (fd : Descriptor) (change : OpenChange) :
    (change.apply (σ := σ) owner fd).Composed (Call.Names own) := by
  have written : ∀ place bytes,
      (writeAll (σ := σ) .change fd place bytes).Composed (Call.Names own) := fun place bytes =>
    composed_writeWithin (fun _ => .of_nameless rfl) (fun _ _ => .of_nameless rfl) _ place bytes
  cases change with
  | write | pwrite => exact written _ _
  | ftruncate | fchmod | fchown | futimens | fsetxattr | fremovexattr | fallocate =>
      exact (composed_issue (.of_nameless rfl)).discard

theorem composed_judge (privileges : Privileges) (trigger : Trigger) (operation : String)
    (result : Except IoError Unit) :
    (judge privileges trigger operation result : Attempt σ Interrupt Unit).Composed
      (Call.Names own) := by
  unfold judge
  cases Effect.ofResult trigger.toleratesDenial result with
  | applied => exact .log _ _
  | unsupported | denied => exact .bind (.log _ _) fun _ => .throw _
  | failed => exact .throw _

namespace Scene

variable (scene : Scene)

theorem composed_judge {operation : String} {change : Attempt σ IoError Unit}
    (composed : change.Composed (Call.Names own)) :
    (scene.judge operation change).Composed (Call.Names own) :=
  composed.bind_settle fun _ => Scenario.composed_judge _ _ _ _

theorem composed_check (check : Check) {file : Role} (mine : own (scene.path file))
    (after : String) :
    (scene.check (σ := σ) check file after).Composed (Call.Names own) := by
  cases check with
  | stable => exact scene.snapshot.composed_stable mine after
  | stableLink => exact scene.snapshot.composed_stableLink mine after
  | stableAll => exact scene.snapshot.composed_stableAll mine after
  | absent => exact Snapshot.composed_absent mine after
  | linkCount minimum => exact Snapshot.composed_linkCount mine minimum after

theorem composed_performOpen (fd : Descriptor) (step : OpenStep) :
    (scene.performOpen (σ := σ) fd step).Composed (Call.Names own) := by
  cases step with
  | change change => exact scene.composed_judge (change.composed_apply _ fd)
  | stable after => exact (scene.snapshot.composed_stableOpen fd after).explain _

theorem composed_perform {step : Step} (mine : ∀ role ∈ step.files, own (scene.path role)) :
    (scene.perform (σ := σ) step).Composed (Call.Names own) := by
  cases step with
  | removeStale file =>
      have here := mine file List.mem_cons_self
      exact ((composed_removeStale (.of_single rfl here)).explain _).explain _
  | change change file =>
      exact scene.composed_judge (composed_issue (PathChange.names_call mine)).discard
  | check check file after =>
      exact (scene.composed_check check (mine file List.mem_cons_self) after).explain _
  | opened access steps =>
      have here := mine .fixture List.mem_cons_self
      refine composed_withFile (fun _ => .of_nameless rfl) ?_ fun fd => ?_
      · exact ((composed_issue (.of_single rfl here)).explain _).explain _
      · exact .forM fun step _ => scene.composed_performOpen fd step
  | cleanUp file =>
      have here := mine file List.mem_cons_self
      exact ((composed_issue (.of_single rfl here)).discard.explain _).explain _

end Scene

theorem composed_resolve {base : Path} {trigger : Trigger}
    (mine : own (base.join trigger.fixture)) :
    (Fixture.resolve (σ := σ) base trigger).Composed (Call.Names own) := by
  refine (((composed_lookup (.of_single rfl mine)).explain _).explain _).bind fun found => ?_
  cases found with
  | none => exact .bind (.log _ _) fun _ => .throw _
  | some metadata =>
      refine ((Snapshot.composed_stable _ mine _).explain _).bind fun _ => ?_
      exact .bind (.log _ _) fun _ => .pure _

theorem composed_ownerFor (trigger : Trigger) {path : Path} (mine : own path) :
    (ownerFor (σ := σ) trigger path).Composed (Call.Names own) := by
  unfold ownerFor
  by_cases reads : readsOwner trigger
  · simp only [reads, if_true]
    refine .explain _ (((composed_lookup (.of_single rfl mine)).explain _).bind fun found => ?_)
    cases found with
    | none => exact .throw _
    | some metadata => exact .pure _
  · simp only [reads, if_false, Bool.false_eq_true]
    exact .pure _

/-- A scenario is put together from calls that name its fixture and the files of its steps. -/
theorem composed_exercise {trigger : Trigger} {base : Path} (privileges : Privileges)
    (fixture : own (base.join trigger.fixture))
    (mine : ∀ step ∈ steps trigger, ∀ role ∈ step.files, own (rolePath base trigger role)) :
    (exercise (σ := σ) trigger base privileges).Composed (Call.Names own) := by
  refine (composed_resolve fixture).bind fun snapshot => ?_
  refine (composed_ownerFor trigger fixture).bind fun owner => .forM fun step member => ?_
  exact Scene.composed_perform _ (mine step member)

end Scenario

/-! ## Seeding, and the preparation of a suite -/

namespace Fixture

open FileSystem

variable {σ : Type} [Kernel σ] {own : Path → Prop}

theorem composed_seedFile {path : Path} (mine : own path) :
    (seedFile (σ := σ) path).Composed (Call.Names own) := by
  refine composed_withFile (fun _ => .of_nameless rfl) ?_ fun fd => ?_
  · exact composed_issue (.of_single rfl mine)
  · refine .bind ?_ fun _ => .bind (composed_issue (.of_nameless rfl)) fun _ => .log _ _
    exact composed_writeWithin (fun _ => .of_nameless rfl) (fun _ _ => .of_nameless rfl) _ _ _

theorem composed_seed {directory : Path}
    (mine : ∀ name ∈ names ++ leftovers, own (directory.join name)) :
    (seed (σ := σ) directory).Composed (Call.Names own) := by
  have ⟨written, removed⟩ := List.forall_mem_append.1 mine
  refine .bind (.forM fun path member => ?_) fun _ => .bind (.forM fun name member => ?_) fun _ =>
    .bind (.log _ _) fun _ => .pure _
  · obtain ⟨name, among, rfl⟩ := List.mem_map.1 member
    exact composed_seedFile (written name among)
  · exact composed_removeStale (.of_single rfl (removed name member))

end Fixture

theorem Site.composed_prepare {σ : Type} [Kernel σ] (host : Host) (plan : Plan) :
    (Site.prepare (σ := σ) host plan).Composed fun call => ∃ path, call = .realpath path := by
  refine .bind (FileSystem.composed_issue ⟨_, rfl⟩) fun base => .bind ?_ fun directory =>
    .bind (.log _ _) fun _ => .pure _
  cases plan.directory with
  | none => exact .pure _
  | some directory => exact .map _ (FileSystem.composed_issue ⟨_, rfl⟩)

/-! ## The listing check -/

/-- The call names only such paths, changes nothing, and neither makes a file nor empties one. -/
structure Call.Observes (own : Path → Prop) (call : Call) : Prop where
  names : call.Names own
  still : call.mutates = false
  opens : ∀ path flags, call = .openFile path flags → flags.create = none ∧ flags.truncate = false

theorem Call.Observes.of_nameless {own : Path → Prop} {call : Call} (nameless : call.paths = [])
    (still : call.mutates = false) : call.Observes own := by
  refine ⟨.of_nameless nameless, still, ?_⟩
  rintro path flags rfl
  contradiction

namespace Directory

variable {σ : Type} [Kernel σ] {own : Path → Prop}

theorem composed_fill (purpose : Purpose) (fd : Descriptor) :
    (fill (σ := σ) purpose fd).Composed (Call.Observes own) :=
  FileSystem.composed_issue (.of_nameless rfl rfl)

theorem composed_nextEntries (fd : Descriptor) :
    (nextEntries (σ := σ) fd).Composed (Call.Observes own) := by
  refine ((composed_fill .listing fd).explain _).bind fun buffer => ?_
  by_cases empty : buffer = []
  · simp only [empty, if_true]
    exact .pure _
  · simp only [empty, if_false]
    exact .bind (.log _ _) fun _ => .map _ (.explain _ (.conclude _))

theorem composed_listWithin (fd : Descriptor) (more : Nat) :
    (listWithin (σ := σ) fd more).Composed (Call.Observes own) := by
  induction more with
  | zero =>
      refine (composed_nextEntries fd).bind fun found => ?_
      cases found with
      | none => exact .pure _
      | some entries => exact .map _ (.pure _)
  | succ more ih =>
      refine (composed_nextEntries fd).bind fun found => ?_
      cases found with
      | none => exact .pure _
      | some entries => exact .map _ ih

theorem composed_list (fd : Descriptor) :
    (list (σ := σ) fd).Composed (Call.Observes own) :=
  .unbounded (fun more => (listWithin fd more).run) (composed_listWithin fd)
    fun _ _ enough => exec_listWithin enough

end Directory

namespace Scenario.Enumeration

open FileSystem

variable {σ : Type} [Kernel σ] {own : Path → Prop} {target : Path} {entry : String}

theorem composed_checkListing (target : Path) (entry : String) (fd : Descriptor) :
    (checkListing (σ := σ) target entry fd).Composed (Call.Observes own) :=
  ((Directory.composed_list fd).explain _).bind fun _ => .bind (.log _ _) fun _ => .conclude _

theorem composed_expectError (operation : String) (expected : Errno) (fd : Descriptor) :
    (expectError (σ := σ) operation expected fd).Composed (Call.Observes own) := by
  refine (Directory.composed_fill .probe fd).bind_settle fun result => ?_
  cases result with
  | ok bytes => exact .throw _
  | error error =>
      by_cases right : error = .os expected
      · simp only [right, if_true]
        exact .log _ _
      · simp only [right, if_false]
        exact .throw _

theorem composed_park (limit : Except Errno UInt64) (fd : Descriptor) :
    (park (σ := σ) limit fd).Composed (Call.Observes own) := by
  have released : ∀ {α : Type} {next : Unit → Attempt σ Failure α},
      (next ()).Composed (Call.Observes own) →
        (release fd >>= next).Composed (Call.Observes own) :=
    fun later => (composed_release (.of_nameless rfl rfl)).bind fun _ => later
  refine (composed_issue (.of_nameless rfl rfl)).bind_settle fun result => ?_
  cases result with
  | ok parked => exact released (.pure _)
  | error error =>
      by_cases crowded : error = .os .einval ∨ error = .os .emfile
      · simp only [crowded, if_true]
        exact .bind (.log _ _) fun _ => .pure _
      · simp only [crowded, if_false]
        exact released (.throw _)

theorem composed_checkClosed (limit : Except Errno UInt64) (fd : Descriptor) :
    (checkClosed (σ := σ) limit fd).Composed (Call.Observes own) :=
  (composed_park limit fd).bind fun _ =>
    .bind ((composed_issue (.of_nameless rfl rfl)).discard.explain _) fun _ =>
      composed_expectError _ _ _

theorem composed_checkDirectory (target : Path) (entry : String) (limit : Except Errno UInt64)
    (fd : Descriptor) :
    (checkDirectory (σ := σ) target entry limit fd).Composed (Call.Observes own) := by
  refine (composed_checkListing target entry fd).bind_settle fun result => ?_
  cases result with
  | ok => exact composed_checkClosed limit fd
  | error failure => exact (composed_release (.of_nameless rfl rfl)).bind fun _ => .throw _

theorem composed_opening {path : Path} {flags : OpenFlags} (mine : own path)
    (plain : flags.create = none ∧ flags.truncate = false) :
    (issue (σ := σ) .acquire (.openFile path flags)).Composed (Call.Observes own) := by
  refine composed_issue ⟨.of_single rfl mine, rfl, ?_⟩
  rintro _ _ ⟨⟩
  exact plain

theorem composed_checkBoth (limit : Except Errno UInt64) (directory : own target)
    (file : own (target.join entry)) :
    (checkBoth (σ := σ) target entry limit).Composed (Call.Observes own) := by
  refine ((composed_opening directory ⟨rfl, rfl⟩).explain _).bind fun fd => ?_
  refine (composed_checkDirectory target entry limit fd).bind fun _ => ?_
  refine composed_withFile (fun _ => .of_nameless rfl rfl) ?_ fun fd => ?_
  · exact (composed_opening file ⟨rfl, rfl⟩).explain _
  · exact composed_expectError _ _ fd

/-- The listing check is put together from calls that only look, at its directory and its entry. -/
theorem composed_run (limit : Except Errno UInt64) (directory : own target)
    (file : own (target.join entry)) :
    (run (σ := σ) target entry limit).Composed (Call.Observes own) := by
  have looked : (lookupLink (σ := σ) .presence (target.join entry)).Composed
      (Call.Observes own) :=
    composed_lookupLink ⟨.of_single rfl file, rfl, nofun⟩
  refine ((looked.explain _).explain _).bind fun found => ?_
  cases found with
  | none => exact .bind (.log _ _) fun _ => .throw _
  | some metadata => exact (composed_checkBoth limit directory file).explain _

end Scenario.Enumeration

/-! ## Suites -/

namespace Recorded

/-- What is done to the value of an attempt may as well be done to its result. -/
theorem mapRecord_map_bind {ω ψ σ ε α β γ : Type} (translate : ω → ψ) (f : α → β)
    (attempt : ExceptT ε (Recorded ω σ) α) (next : Except ε β → Recorded ψ σ γ) :
    (f <$> attempt).run.mapRecord translate >>= next =
      attempt.run.mapRecord translate >>= fun result => next (f <$> result) := by
  ext kernel
  rw [ExceptT.run_map, run_bind, run_mapRecord, run_map]
  rfl

variable {σ : Type} [Kernel σ]

inductive Composed (permits : Call → Prop) : {α : Type} → Recorded Progress σ α → Prop
  | pure {α : Type} (value : α) : Composed permits (pure value)
  | notify (notice : Notice) : Composed permits (Suite.notify notice)
  | log (severity : Severity) (text : String) : Composed permits (Suite.log severity text)
  | mapRecord {α : Type} {session : Session σ α} (inner : Session.Composed permits session) :
      Composed permits (session.mapRecord Progress.event)
  | bind {α β : Type} {computation : Recorded Progress σ α} {next : α → Recorded Progress σ β}
      (first : Composed permits computation) (rest : ∀ value, Composed permits (next value)) :
      Composed permits (computation >>= next)

namespace Composed

variable {permits : Call → Prop} {α β : Type} {computation : Recorded Progress σ α}

protected theorem map (f : α → β) (composed : Composed permits computation) :
    Composed permits (f <$> computation) := by
  rw [map_eq_pure_bind]
  exact composed.bind fun value => .pure (f value)

/-- Only permitted calls are asked. -/
theorem permits_of_asked (composed : Composed permits computation) (kernel : σ) :
    ∀ one ∈ Progress.asked (computation.run kernel).record, permits one.call := by
  induction composed generalizing kernel with
  | pure | notify | log => exact fun one member => absurd member List.not_mem_nil
  | mapRecord inner =>
      rw [run_mapRecord, Progress.asked_map_event]
      exact inner.permits_of_asked kernel
  | bind _ _ first rest =>
      rw [record_bind, Progress.asked_append]
      exact List.forall_mem_append.2 ⟨first kernel, rest _ _⟩

end Composed

end Recorded

namespace Suite

variable {σ : Type} [Kernel σ] {permits : Call → Prop} {own : Path → Prop}

theorem composed_runScenario {site : Site} {scenario : Scenario σ}
    (composed : (scenario.run site).Composed permits) :
    (runScenario site scenario).Composed permits :=
  .bind (.notify _) fun _ => .bind (.mapRecord composed) fun _ => .bind (.log _ _) fun _ =>
    .bind (.notify _) fun _ => .pure _

theorem composed_runScenarios {site : Site} {scenarios : List (Scenario σ)}
    (composed : ∀ scenario ∈ scenarios, (scenario.run site).Composed permits) :
    (runScenarios site scenarios).Composed permits := by
  induction scenarios with
  | nil => exact .pure _
  | cons scenario rest ih =>
      refine .bind (composed_runScenario (composed scenario List.mem_cons_self)) fun outcome => ?_
      cases outcome.isFailed with
      | true => exact .bind (.log _ _) fun _ => .pure _
      | false =>
          have later := ih fun other member => composed other (List.mem_cons_of_mem _ member)
          exact .bind later fun _ => .pure _

theorem composed_run {suite : Suite σ}
    (composed : ∀ scenario ∈ suite.scenarios, (scenario.run suite.site).Composed permits) :
    suite.run.Composed permits :=
  .bind (.log _ _) fun _ => .bind (composed_runScenarios composed) fun _ =>
    .bind (.notify _) fun _ => .pure _

/-- A scenario of the catalog names what is below the base, and the listing check its target and its
entry. -/
theorem composed_of_mem_catalog {plan : Plan} {site : Site} {scenario : Scenario σ}
    (below : ∀ name, own (site.base.join name)) (target : own site.plan.target)
    (entry : own (site.plan.target.join site.plan.entry)) (member : scenario ∈ catalog plan) :
    (scenario.run site).Composed (Call.Names own) := by
  rcases List.mem_append.1 member with selected | listing
  · obtain ⟨trigger, _, rfl⟩ := List.mem_map.1 selected
    exact Scenario.composed_exercise _ (below _) fun _ _ _ _ => below _
  · by_cases wanted : plan.enumeration
    · simp only [wanted, if_true, List.mem_singleton] at listing
      rw [listing]
      exact Session.Composed.mono (Scenario.Enumeration.composed_run _ target entry)
        fun _ observes => observes.names
    · simp [wanted] at listing

theorem standard_eq (host : Host) (plan : Plan) :
    standard (σ := σ) host plan = (⟨·, catalog plan⟩) <$> Site.prepare host plan :=
  (map_eq_pure_bind _ _).symm

theorem exists_site_of_standard {host : Host} {plan : Plan} {kernel : σ} {suite : Suite σ}
    (built : ((standard host plan).exec kernel).value = .ok suite) :
    ∃ site, suite = ⟨site, catalog plan⟩ := by
  rw [standard_eq, Attempt.exec_map] at built
  cases prepared : ((Site.prepare (σ := σ) host plan).exec kernel).value with
  | error => simp [prepared] at built
  | ok site =>
      rw [prepared] at built
      cases built
      exact ⟨site, rfl⟩

/-- To conduct a plan is to prepare its site and to run its catalog there. -/
theorem conduct_eq (host : Host) (plan : Plan) :
    conduct (σ := σ) host plan = (do
      match ← (Site.prepare host plan).run.mapRecord .event with
      | .ok site => .ok <$> Suite.run ⟨site, catalog plan⟩
      | .error error => pure (.error error)) := by
  unfold conduct
  rw [standard_eq, Recorded.mapRecord_map_bind]
  refine bind_congr fun result => ?_
  cases result <;> rfl

/-- A whole run is put together from calls, whatever they name. -/
theorem composed_conduct (host : Host) (plan : Plan) :
    (conduct (σ := σ) host plan).Composed fun _ => True := by
  rw [conduct_eq]
  refine .bind (.mapRecord ((Site.composed_prepare host plan).mono fun _ _ => trivial)) ?_
  rintro (error | site)
  · exact .pure _
  · refine .map _ (composed_run fun scenario member => ?_)
    have composed : (scenario.run site).Composed (Call.Names fun _ => True) :=
      composed_of_mem_catalog (fun _ => trivial) trivial trivial member
    exact Session.Composed.mono composed fun _ _ => trivial

end Suite

end CopyUp
