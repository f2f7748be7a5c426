import CopyUp.Proofs.Ledger
import CopyUp.Proofs.Scenes
import CopyUp.Suite.Run

/-!
# What checks do to a ledger

Single operations, scenarios and seeding leave a ledger as they found it: what they open they also
close, on every way out. The listing check does too, though the directory that it lists changes its
number and is closed for the sake of the probe that follows.
-/

namespace CopyUp

def Call.quiet : Call → Bool
  | openFile .. | dup .. | close .. => false
  | _ => true

theorem Ledger.quiet_of_call {ledger : Ledger} {one : Asked} (quiet : one.call.quiet)
    (through : ∀ fd, one.call.descriptor? = some fd → fd ∈ ledger.held) : ledger.Quiet one := by
  obtain ⟨purpose, call, reply⟩ := one
  cases call with
  | openFile | dup | close => cases quiet
  | _ => exact ⟨rfl, rfl, through⟩

namespace FileSystem

open Attempt

variable {σ ε α : Type} [Kernel σ] {probing : Bool} {needs : List Descriptor}

/-! ## Single calls -/

theorem keeps_issue (purpose : Purpose) {call : Call} (quiet : call.quiet)
    (through : ∀ fd, call.descriptor? = some fd → fd ∈ needs) :
    (issue (σ := σ) purpose call).Keeps probing needs := by
  intro ledger enough
  refine (ensures_issue purpose call).mono fun result asked issued => ?_
  refine Ledger.accepts_of_quiet fun one member => ?_
  cases issued with
  | refused => contradiction
  | answered answered =>
      obtain ⟨_, rfl⟩ := answered.same member
      exact Ledger.quiet_of_call quiet fun fd named => enough fd (through fd named)

/-- The attempts that were interrupted handed out nothing. -/
theorem acquires_openFile (purpose : Purpose) (path : Path) (flags : OpenFlags) :
    (issue (σ := σ) purpose (.openFile path flags)).Acquires probing needs := by
  intro ledger _
  refine (ensures_issue purpose _).mono fun result asked issued => ?_
  cases issued with
  | refused => exact ⟨trivial, rfl⟩
  | @answered reply _ answered =>
      obtain ⟨interrupted, rfl, alike⟩ := answered.exists_eq_append
      have before : ledger.Accepts probing interrupted ∧
          (ledger.afterAll interrupted).held = ledger.held := by
        refine Ledger.accepts_of_quiet fun one member => ?_
        rw [alike one member]
        exact ⟨rfl, rfl, by simp [Asked.call, Call.descriptor?]⟩
      obtain ⟨accepts, same⟩ := before
      refine ⟨Ledger.accepts_append.2 ⟨accepts, ?_, trivial⟩, ?_⟩
      · simp [Ledger.Allows, Asked.call, Call.descriptor?]
      · rw [Ledger.afterAll_append, ← same]
        cases reply <;> rfl

theorem acquires_dup (purpose : Purpose) {fd : Descriptor} (floor : Descriptor)
    (held : fd ∈ needs) : (issue (σ := σ) purpose (.dup fd floor)).Acquires probing needs := by
  intro ledger enough
  refine (ensures_issue purpose _).mono fun result asked issued => ?_
  cases issued with
  | refused => exact ⟨trivial, rfl⟩
  | @answered reply _ answered =>
      rw [answered.eq_of_not_restarts (by simp [Call.restarts])]
      refine ⟨⟨fun other named => .inl ?_, trivial⟩, by cases reply <;> rfl⟩
      cases named
      exact enough fd held

theorem moves_close (purpose : Purpose) {ledger : Ledger} {fd : Descriptor}
    (held : fd ∈ ledger.held) :
    (issue (σ := σ) purpose (.close fd)).Moves probing ledger fun _ after =>
      after.held = ledger.held.erase fd ∧
        (purpose = .relinquish → after.relinquished = some fd) := by
  refine (ensures_issue purpose _).mono fun result asked issued => ?_
  cases issued with
  | refused member => simp [Call.paths] at member
  | answered answered =>
      rw [answered.eq_of_not_restarts (by simp [Call.restarts])]
      refine ⟨⟨fun other named => .inl ?_, trivial⟩, rfl, fun purposely => ?_⟩
      · cases named
        exact held
      · simp [Ledger.after, purposely, Asked.closed?, Asked.call]

/-- To release a number never fails, so what follows is sure to be reached. -/
theorem moves_release_bind {ledger : Ledger} {fd : Descriptor} {next : Unit → Attempt σ ε α}
    {post : Except ε α → Ledger → Prop} (held : fd ∈ ledger.held)
    (goes : ∀ released : Ledger, released.held = ledger.held.erase fd →
      (next ()).Moves probing released post) :
    (release fd >>= next).Moves probing ledger post := by
  have released : (release fd : Attempt σ ε Unit).Moves probing ledger fun result after =>
      result = .ok () ∧ after.held = ledger.held.erase fd :=
    (moves_close .release held).bind_settle fun _ _ closed => .pure ⟨rfl, closed.1⟩
  exact released.bind_sure goes

/-- A file that was opened is released last, so nothing is in use that was not before. -/
theorem keeps_withFile {acquire : Attempt σ ε Descriptor} {body : Descriptor → Attempt σ ε α}
    (acquired : acquire.Acquires probing needs)
    (works : ∀ fd, (body fd).Keeps probing (fd :: needs)) :
    (withFile acquire body).Keeps probing needs := by
  intro ledger enough
  refine (acquired ledger enough).bind (fun _ _ same => same) fun fd opened first => ?_
  have inUse : ∀ other ∈ fd :: needs, other ∈ opened.held := by
    intro other member
    rw [first]
    rcases List.mem_cons.1 member with rfl | before
    · exact List.mem_cons_self
    · exact List.mem_cons_of_mem _ (enough other before)
  refine (works fd opened inUse).bind_settle fun result used same => ?_
  have held : fd ∈ used.held := by rw [same]; exact inUse fd (by simp)
  refine moves_release_bind held fun released erased => .conclude ?_
  rw [erased, same, first]
  exact List.erase_cons_head ..

/-! ## Questions and writes -/

theorem keeps_unlessMissing {attempt : Attempt σ IoError α} (keeps : attempt.Keeps probing needs) :
    (unlessMissing attempt).Keeps probing needs := by
  refine keeps.bind_settle fun result => ?_
  cases result with
  | ok value => exact .pure _
  | error error =>
      by_cases missing : error = .os .enoent
      · simp only [missing, if_true]
        exact .pure _
      · simp only [missing, if_false]
        exact .throw _

theorem keeps_lookup (purpose : Purpose) (path : Path) :
    (lookup (σ := σ) purpose path).Keeps probing needs :=
  keeps_unlessMissing (keeps_issue purpose rfl (by simp [Call.descriptor?]))

theorem keeps_lookupLink (purpose : Purpose) (path : Path) :
    (lookupLink (σ := σ) purpose path).Keeps probing needs :=
  keeps_unlessMissing (keeps_issue purpose rfl (by simp [Call.descriptor?]))

theorem keeps_removeStale (path : Path) : (removeStale (σ := σ) path).Keeps probing needs :=
  (keeps_unlessMissing (keeps_issue .stale rfl (by simp [Call.descriptor?]))).bind
    fun _ => .pure _

theorem keeps_issue_through (purpose : Purpose) {call : Call} {fd : Descriptor}
    (quiet : call.quiet) (through : call.descriptor? = some fd) (held : fd ∈ needs) :
    (issue (σ := σ) purpose call).Keeps probing needs := by
  refine keeps_issue purpose quiet fun other named => ?_
  rw [through] at named
  cases named
  exact held

theorem keeps_inspect (purpose : Purpose) {fd : Descriptor} (held : fd ∈ needs) :
    (inspect (σ := σ) purpose fd).Keeps probing needs :=
  keeps_issue_through purpose rfl rfl held

theorem keeps_offer (purpose : Purpose) {fd : Descriptor} (bytes : Bytes) (place : Placement)
    (held : fd ∈ needs) : (offer (σ := σ) purpose fd bytes place).Keeps probing needs := by
  cases place with
  | next | «at» => exact keeps_issue_through purpose rfl rfl held

theorem keeps_writeWithin (purpose : Purpose) {fd : Descriptor} (bound : Nat) (place : Placement)
    (bytes : Bytes) (held : fd ∈ needs) :
    (writeWithin (σ := σ) purpose fd bound place bytes).Keeps probing needs := by
  induction bound generalizing place bytes with
  | zero => cases bytes <;> exact .pure _
  | succ bound ih =>
      cases bytes with
      | nil => exact .pure _
      | cons byte rest =>
          refine (keeps_offer purpose _ place held).bind fun count => ?_
          by_cases none : count = 0
          · simp only [none, if_true]
            exact .throw _
          · simp only [none, if_false]
            exact ih _ _

theorem keeps_writeAll (purpose : Purpose) {fd : Descriptor} (place : Placement) (bytes : Bytes)
    (held : fd ∈ needs) : (writeAll (σ := σ) purpose fd place bytes).Keeps probing needs :=
  keeps_writeWithin purpose _ place bytes held

end FileSystem

/-! ## Checks against a snapshot -/

namespace Snapshot

open FileSystem

variable {σ : Type} [Kernel σ] {probing : Bool} {needs : List Descriptor}

theorem keeps_compare (snapshot : Snapshot) (observed : Identity) (after : String) :
    (snapshot.compare observed after : Attempt σ Failure Unit).Keeps probing needs := by
  unfold compare
  by_cases same : observed = snapshot.expected
  · simp only [same, if_true]
    exact .pure _
  · simp only [same, if_false]
    exact .throw _

theorem keeps_stable (snapshot : Snapshot) (path : Path) (after : String) :
    (snapshot.stable (σ := σ) path after).Keeps probing needs := by
  refine ((keeps_lookup .identity path).explain _).bind fun found => ?_
  cases found with
  | none => exact .throw _
  | some metadata => exact .bind (.log _ _) fun _ => snapshot.keeps_compare _ _

theorem keeps_stableLink (snapshot : Snapshot) (path : Path) (after : String) :
    (snapshot.stableLink (σ := σ) path after).Keeps probing needs := by
  refine ((keeps_lookupLink .identity path).explain _).bind fun found => ?_
  cases found with
  | none => exact .throw _
  | some metadata => exact .bind (.log _ _) fun _ => snapshot.keeps_compare _ _

theorem keeps_stableOpen (snapshot : Snapshot) {fd : Descriptor} (after : String)
    (held : fd ∈ needs) : (snapshot.stableOpen (σ := σ) fd after).Keeps probing needs :=
  ((keeps_inspect .identity held).explain _).bind fun _ =>
    .bind (.log _ _) fun _ => snapshot.keeps_compare _ _

theorem keeps_stableAll (snapshot : Snapshot) (path : Path) (after : String) :
    (snapshot.stableAll (σ := σ) path after).Keeps probing needs := by
  refine (snapshot.keeps_stable path after).bind fun _ => ?_
  refine (snapshot.keeps_stableLink path after).bind fun _ => ?_
  refine keeps_withFile ((acquires_openFile .acquire path _).explain _) fun fd => ?_
  exact snapshot.keeps_stableOpen after (by simp)

theorem keeps_absent (path : Path) (after : String) :
    (absent (σ := σ) path after).Keeps probing needs := by
  refine ((keeps_lookup .absence path).explain _).bind fun found => ?_
  cases found with
  | none => exact .log _ _
  | some metadata => exact .throw _

theorem keeps_linkCount (path : Path) (minimum : UInt64) (after : String) :
    (linkCount (σ := σ) path minimum after).Keeps probing needs := by
  refine ((keeps_lookup .linkCount path).explain _).bind fun found => ?_
  cases found with
  | none => exact .throw _
  | some metadata =>
      refine .bind (.log _ _) fun _ => ?_
      by_cases few : metadata.linkCount < minimum
      · simp only [few, if_true]
        exact .throw _
      · simp only [few, if_false]
        exact .pure _

end Snapshot

/-! ## Scenarios -/

namespace Scenario

open FileSystem

variable {σ : Type} [Kernel σ] {probing : Bool} {needs : List Descriptor}

theorem PathChange.quiet_call (path : Role → Path) (owner : Owner) (file : Role)
    (change : PathChange) :
    (change.call path owner file).quiet ∧ (change.call path owner file).descriptor? = none := by
  cases change <;> exact ⟨rfl, rfl⟩

theorem OpenChange.keeps_apply (owner : Owner) {fd : Descriptor} (change : OpenChange)
    (held : fd ∈ needs) : (change.apply (σ := σ) owner fd).Keeps probing needs := by
  cases change with
  | write text => exact keeps_writeAll .change _ _ held
  | pwrite text offset => exact keeps_writeAll .change _ _ held
  | ftruncate | fchmod | fchown | futimens | fsetxattr | fremovexattr | fallocate =>
      exact (keeps_issue_through .change rfl rfl held).discard

namespace Scene

theorem keeps_judge (scene : Scene) (operation : String) {change : Attempt σ IoError Unit}
    (keeps : change.Keeps probing needs) : (scene.judge operation change).Keeps probing needs :=
  fun ledger enough => scene.ensures_judge operation (keeps ledger enough)

theorem keeps_check (scene : Scene) (check : Check) (file : Role) (after : String) :
    (scene.check (σ := σ) check file after).Keeps probing needs := by
  cases check with
  | stable => exact scene.snapshot.keeps_stable _ _
  | stableLink => exact scene.snapshot.keeps_stableLink _ _
  | stableAll => exact scene.snapshot.keeps_stableAll _ _
  | absent => exact Snapshot.keeps_absent _ _
  | linkCount minimum => exact Snapshot.keeps_linkCount _ _ _

theorem keeps_performOpen (scene : Scene) {fd : Descriptor} (step : OpenStep)
    (held : fd ∈ needs) : (scene.performOpen (σ := σ) fd step).Keeps probing needs := by
  cases step with
  | change change => exact scene.keeps_judge _ (change.keeps_apply _ held)
  | stable after => exact (scene.snapshot.keeps_stableOpen after held).explain _

theorem keeps_perform (scene : Scene) (step : Step) :
    (scene.perform (σ := σ) step).Keeps probing needs := by
  cases step with
  | removeStale file => exact ((keeps_removeStale _).explain _).explain _
  | change change file =>
      obtain ⟨quiet, none⟩ := change.quiet_call scene.path scene.owner file
      exact scene.keeps_judge _ (keeps_issue .change quiet (by simp [none])).discard
  | check check file after => exact (scene.keeps_check check file after).explain _
  | opened access steps =>
      refine keeps_withFile (((acquires_openFile .acquire _ _).explain _).explain _) fun fd => ?_
      exact .forM fun step _ => scene.keeps_performOpen step (by simp)
  | cleanUp file =>
      exact (((keeps_issue .cleanUp rfl (by simp [Call.descriptor?])).discard).explain _).explain _

end Scene

theorem keeps_resolve (base : Path) (trigger : Trigger) :
    (Fixture.resolve (σ := σ) base trigger).Keeps probing needs := by
  refine (((keeps_lookup .snapshot _).explain _).explain _).bind fun found => ?_
  cases found with
  | none => exact .bind (.log _ _) fun _ => .throw _
  | some metadata =>
      refine ((Snapshot.keeps_stable _ _ _).explain _).bind fun _ => ?_
      exact .bind (.log _ _) fun _ => .pure _

theorem keeps_ownerFor (trigger : Trigger) (path : Path) :
    (ownerFor (σ := σ) trigger path).Keeps probing needs := by
  unfold ownerFor
  by_cases reads : readsOwner trigger
  · simp only [reads, if_true]
    refine .explain _ (((keeps_lookup .owner path).explain _).bind fun found => ?_)
    cases found with
    | none => exact .throw _
    | some metadata => exact .pure _
  · simp only [reads, if_false, Bool.false_eq_true]
    exact .pure _

/-- A scenario closes what it opens, wherever it ends. -/
theorem keeps_exercise (trigger : Trigger) (base : Path) (privileges : Privileges) :
    (exercise (σ := σ) trigger base privileges).Keeps probing needs := by
  refine (keeps_resolve base trigger).bind fun snapshot => ?_
  refine (keeps_ownerFor trigger _).bind fun owner => .forM fun step _ => ?_
  exact Scene.keeps_perform _ step

end Scenario

/-! ## Seeding, and the preparation of a suite -/

namespace Fixture

open FileSystem

variable {σ : Type} [Kernel σ] {probing : Bool} {needs : List Descriptor}

theorem keeps_seedFile (path : Path) : (seedFile (σ := σ) path).Keeps probing needs := by
  refine keeps_withFile (acquires_openFile .acquire path _) fun fd => ?_
  refine (keeps_writeAll .seeding _ _ (by simp)).bind fun _ => ?_
  exact (keeps_issue_through .seeding rfl rfl (by simp)).bind fun _ => .log _ _

theorem keeps_seed (directory : Path) : (seed (σ := σ) directory).Keeps probing needs := by
  refine .bind (.forM fun path _ => keeps_seedFile path) fun _ => ?_
  refine .bind (.forM fun name _ => keeps_removeStale _) fun _ => ?_
  exact .bind (.log _ _) fun _ => .pure _

end Fixture

theorem Site.keeps_prepare {σ : Type} [Kernel σ] {probing : Bool} {needs : List Descriptor}
    (host : Host) (plan : Plan) : (Site.prepare (σ := σ) host plan).Keeps probing needs := by
  have canonical : ∀ directory, (Site.canonical (σ := σ) directory).Keeps probing needs :=
    fun directory => FileSystem.keeps_issue .canonicalForm rfl (by simp [Call.descriptor?])
  refine (canonical plan.base).bind fun base => ?_
  refine Attempt.Keeps.bind ?_ fun directory => .bind (.log _ _) fun _ => .pure _
  cases plan.directory with
  | none => exact .pure _
  | some directory => exact (canonical directory).map _

/-! ## The listing check -/

namespace Directory

variable {σ : Type} [Kernel σ] {probing : Bool} {needs : List Descriptor}

theorem keeps_nextEntries {fd : Descriptor} (held : fd ∈ needs) :
    (nextEntries (σ := σ) fd).Keeps probing needs := by
  refine ((FileSystem.keeps_issue_through .listing rfl rfl held).explain _).bind fun buffer => ?_
  by_cases empty : buffer = []
  · simp only [empty, if_true]
    exact .pure _
  · simp only [empty, if_false]
    exact .bind (.log _ _) fun _ => .map _ (.explain _ (.conclude _))

theorem keeps_listWithin {fd : Descriptor} (more : Nat) (held : fd ∈ needs) :
    (listWithin (σ := σ) fd more).Keeps probing needs := by
  induction more with
  | zero =>
      refine (keeps_nextEntries held).bind fun found => ?_
      cases found with
      | none => exact .pure _
      | some entries => exact .map _ (.pure _)
  | succ more ih =>
      refine (keeps_nextEntries held).bind fun found => ?_
      cases found with
      | none => exact .pure _
      | some entries => exact .map _ ih

theorem ensures_list {fd : Descriptor}
    {post : Except ListingError (List Entry) → List Asked → Prop}
    (each : ∀ more, (listWithin (σ := σ) fd more).Ensures post) :
    (list (σ := σ) fd).Ensures post :=
  ⟨fun kernel => (each (Kernel.patience kernel)).post kernel,
    fun kernel => (each (Kernel.patience kernel)).served kernel⟩

theorem keeps_list {fd : Descriptor} (held : fd ∈ needs) :
    (list (σ := σ) fd).Keeps probing needs :=
  fun ledger enough => ensures_list fun more => keeps_listWithin more held ledger enough

end Directory

namespace Scenario.Enumeration

open FileSystem

variable {σ : Type} [Kernel σ] {probing : Bool} {needs : List Descriptor}

theorem keeps_checkListing (target : Path) (entry : String) {fd : Descriptor}
    (held : fd ∈ needs) : (checkListing (σ := σ) target entry fd).Keeps probing needs :=
  ((Directory.keeps_list held).explain _).bind fun _ => .bind (.log _ _) fun _ => .conclude _

theorem moves_expectError (operation : String) (expected : Errno) {fd : Descriptor}
    {ledger : Ledger} {held : List Descriptor}
    (probes : (Directory.fill (σ := σ) .probe fd).Moves probing ledger
      fun _ after => after.held = held) :
    (expectError (σ := σ) operation expected fd).Moves probing ledger
      fun _ after => after.held = held := by
  refine probes.bind_settle fun result probed same => ?_
  cases result with
  | ok bytes => exact .throw same
  | error error =>
      by_cases right : error = .os expected
      · simp only [right, if_true]
        exact .log same
      · simp only [right, if_false]
        exact .throw same

theorem keeps_checkFile (path : Path) : (checkFile (σ := σ) path).Keeps probing needs := by
  refine keeps_withFile ((acquires_openFile .acquire path _).explain _) fun fd ledger enough => ?_
  exact moves_expectError _ _
    (keeps_issue_through .probe rfl rfl (List.mem_singleton_self fd) ledger
      fun other member => enough other (by simp_all))

/-- The directory goes on under the number that it was parked at, or under its own; if parking
fails it is closed. -/
theorem moves_park (limit : Except Errno UInt64) {fd : Descriptor} {ledger : Ledger}
    {rest : List Descriptor} (first : ledger.held = fd :: rest) :
    (park (σ := σ) limit fd).Moves probing ledger
      fun result after => after.held = result.toOption.toList ++ rest := by
  have held : ∀ other ∈ [fd], other ∈ ledger.held := by simp [first]
  refine (acquires_dup .acquire _ (List.mem_singleton_self fd) ledger held).bind_settle
    fun result duplicated obtained => ?_
  have still : fd ∈ duplicated.held := by simp [obtained, first]
  cases result with
  | ok parked =>
      refine moves_release_bind still fun released erased => .pure ?_
      rw [erased, obtained, first]
      show (parked :: fd :: rest).erase fd = parked :: rest
      by_cases same : parked = fd
      · rw [same, List.erase_cons_head]
      · rw [List.erase_cons_tail (by simpa using same), List.erase_cons_head]
  | error error =>
      by_cases crowded : error = .os .einval ∨ error = .os .emfile
      · simp only [crowded, if_true]
        have logged : ∀ text, (Attempt.log .debug text : Attempt σ Failure Unit).Moves probing
            duplicated fun result after => result = .ok () ∧ after.held = fd :: rest :=
          fun _ => .log ⟨rfl, obtained.trans first⟩
        exact (logged _).bind_sure fun _ same => .pure same
      · simp only [crowded, if_false]
        refine moves_release_bind still fun released erased => .throw ?_
        rw [erased, obtained, first]
        exact List.erase_cons_head ..

/-- The probe of a number that was closed for it just before. -/
theorem moves_fill_of_relinquished {fd : Descriptor} {ledger : Ledger}
    (relinquished : ledger.relinquished = some fd) :
    (Directory.fill (σ := σ) .probe fd).Moves true ledger
      fun _ after => after.held = ledger.held := by
  refine (ensures_issue .probe _).mono fun result asked issued => ?_
  cases issued with
  | refused member => simp [Call.paths] at member
  | answered answered =>
      rw [answered.eq_of_not_restarts (by simp [Call.restarts])]
      refine ⟨⟨fun other named => ?_, trivial⟩, rfl⟩
      cases named
      exact .inr ⟨rfl, rfl, relinquished, _, rfl⟩

/-- The directory is closed, under whatever number it has, before that number is probed. -/
theorem moves_checkClosed (limit : Except Errno UInt64) {fd : Descriptor} {ledger : Ledger}
    {rest : List Descriptor} (first : ledger.held = fd :: rest) :
    (checkClosed (σ := σ) limit fd).Moves true ledger fun _ after => after.held = rest := by
  refine (moves_park limit first).bind (fun _ _ same => same) fun parked between same => ?_
  have held : parked ∈ between.held := by
    rw [same]
    exact List.mem_cons_self
  have closes : (Attempt.strictly "close" (discard
      (issue (σ := σ) .relinquish (.close parked)))).Moves true between
        fun _ after => after.held = rest ∧ after.relinquished = some parked := by
    refine .explain (.discard ((moves_close .relinquish held).mono fun _ after closed => ?_))
    refine ⟨?_, closed.2 rfl⟩
    rw [closed.1, same]
    exact List.erase_cons_head ..
  refine closes.bind (fun _ _ closed => closed.1) fun _ closed told => ?_
  have probes := moves_fill_of_relinquished (σ := σ) told.2
  exact moves_expectError _ _ (probes.mono fun _ after same => same.trans told.1)

/-- The directory is closed whether its listing is right or wrong. -/
theorem moves_checkDirectory (target : Path) (entry : String) (limit : Except Errno UInt64)
    {fd : Descriptor} {ledger : Ledger} {rest : List Descriptor}
    (first : ledger.held = fd :: rest) :
    (checkDirectory (σ := σ) target entry limit fd).Moves true ledger
      fun _ after => after.held = rest := by
  have held : ∀ other ∈ [fd], other ∈ ledger.held := by simp [first]
  refine (keeps_checkListing target entry (List.mem_singleton_self fd) ledger held).bind_settle
    fun result listed same => ?_
  cases result with
  | ok => exact moves_checkClosed limit (same.trans first)
  | error failure =>
      refine moves_release_bind (by simp [same, first]) fun released erased => .throw ?_
      rw [erased, same, first]
      exact List.erase_cons_head ..

theorem keeps_checkBoth (target : Path) (entry : String) (limit : Except Errno UInt64) :
    (checkBoth (σ := σ) target entry limit).Keeps true needs := by
  intro ledger enough
  refine ((acquires_openFile .acquire target _).explain _ ledger enough).bind
    (fun _ _ same => same) fun fd opened obtained => ?_
  refine (moves_checkDirectory target entry limit obtained).bind (fun _ _ same => same)
    fun _ closed same => ?_
  have checked : (checkFile (σ := σ) (target.join entry)).Keeps true [] := keeps_checkFile _
  refine (checked closed (by simp)).mono fun _ _ again => ?_
  exact again.trans same

theorem keeps_run (target : Path) (entry : String) (limit : Except Errno UInt64) :
    (run (σ := σ) target entry limit).Keeps true needs := by
  refine (((keeps_lookupLink .presence _).explain _).explain _).bind fun found => ?_
  cases found with
  | none => exact .bind (.log _ _) fun _ => .throw _
  | some metadata => exact (keeps_checkBoth target entry limit).explain _

end Scenario.Enumeration

end CopyUp
