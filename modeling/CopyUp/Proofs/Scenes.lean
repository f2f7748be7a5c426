import CopyUp.Proofs.Operations
import CopyUp.Scenario.Run

/-!
# What checks and changes ensure

The laws of the operations, put into the terms of a scenario: what the answer to a check makes of
the check, which calls a change is made of, and how a scenario judges it.
-/

namespace CopyUp

open Attempt (AsksOnce must strictly)

/-! ## Checks -/

namespace Snapshot

def compared (snapshot : Snapshot) (observed : Identity) (after : String) : Except Failure Unit :=
  if observed = snapshot.expected then .ok ()
  else .error (.identityChanged after snapshot.expected observed)

/-- A query about a name: what it comes to if the name is missing, and what if it is there. -/
def sought {ρ α : Type} (query : String) (missing : Except Failure α)
    (there : ρ → Except Failure α) : Except Errno ρ → Except Failure α
  | .ok value => there value
  | .error errno => if errno = .enoent then missing else .error (.call query (.os errno))

/-- A query about a name that must be the file of the snapshot. -/
def named (snapshot : Snapshot) (query : String) (path : Path) (after : String) :
    Except Errno Metadata → Except Failure Unit :=
  sought query (.error (.vanished after path)) fun metadata =>
    snapshot.compared metadata.identity after

def handled (snapshot : Snapshot) (after : String) : Except Errno Metadata → Except Failure Unit
  | .ok metadata => snapshot.compared metadata.identity after
  | .error errno => .error (.call "fstat" (.os errno))

/-- A query about a name that must be gone. -/
def vacated (path : Path) (after : String) : Except Errno Metadata → Except Failure Unit :=
  sought "stat" (.ok ()) fun metadata => .error (.stillPresent after path metadata.identity)

def numbered (path : Path) (minimum : UInt64) (after : String) (metadata : Metadata) :
    Except Failure Unit :=
  if metadata.linkCount < minimum then
    .error (.linkCount after path minimum metadata.linkCount)
  else .ok ()

def counted (path : Path) (minimum : UInt64) (after : String) :
    Except Errno Metadata → Except Failure Unit :=
  sought "stat" (.error (.vanished after path)) (numbered path minimum after)

section Judgements

variable {snapshot : Snapshot} {path : Path} {query after : String}

theorem compared_eq_ok_iff {observed : Identity} {value : Unit} :
    snapshot.compared observed after = .ok value ↔ observed = snapshot.expected := by
  unfold compared
  by_cases same : observed = snapshot.expected <;> simp [same]

theorem named_eq_ok_iff {reply : Except Errno Metadata} :
    (∃ value, snapshot.named query path after reply = .ok value) ↔
      ∃ metadata, reply = .ok metadata ∧ metadata.identity = snapshot.expected := by
  cases reply with
  | ok metadata => simp [named, sought, compared_eq_ok_iff]
  | error errno => by_cases missing : errno = .enoent <;> simp [named, sought, missing]

theorem handled_eq_ok_iff {reply : Except Errno Metadata} :
    (∃ value, snapshot.handled after reply = .ok value) ↔
      ∃ metadata, reply = .ok metadata ∧ metadata.identity = snapshot.expected := by
  cases reply <;> simp [handled, compared_eq_ok_iff]

theorem vacated_eq_ok_iff {reply : Except Errno Metadata} :
    (∃ value, vacated path after reply = .ok value) ↔ reply = .error .enoent := by
  cases reply with
  | ok metadata => simp [vacated, sought]
  | error errno => by_cases missing : errno = .enoent <;> simp [vacated, sought, missing]

theorem counted_eq_ok_iff {minimum : UInt64} {reply : Except Errno Metadata} :
    (∃ value, counted path minimum after reply = .ok value) ↔
      ∃ metadata, reply = .ok metadata ∧ minimum ≤ metadata.linkCount := by
  cases reply with
  | ok metadata =>
      by_cases few : metadata.linkCount < minimum <;>
        simp [counted, sought, numbered, few, UInt64.not_lt.1, UInt64.not_le.2]
  | error errno => by_cases missing : errno = .enoent <;> simp [counted, sought, missing]

end Judgements

variable {σ : Type}

theorem silent_compare (snapshot : Snapshot) (observed : Identity) (after : String) :
    (snapshot.compare observed after : Attempt σ Failure Unit).Silent
      (snapshot.compared observed after) := by
  by_cases same : observed = snapshot.expected
  · simp only [compare, compared, same, if_true]
    exact .pure ()
  · simp only [compare, compared, same, if_false]
    exact .throw _

variable [Kernel σ]

theorem asksOnce_sought {α : Type} {purpose : Purpose} (call : Call)
    {asking : Attempt σ IoError (Option call.Reply)}
    (asks : asking.AsksOnce purpose call FileSystem.found) (query : String)
    {next : Option call.Reply → Attempt σ Failure α} {missing : Except Failure α}
    {there : call.Reply → Except Failure α} (none : (next none).Silent missing)
    (some : ∀ value, (next (some value)).Silent (there value)) :
    (strictly query asking >>= next).AsksOnce purpose call (sought query missing there) := by
  refine (AsksOnce.bind (fun
    | .some value => there value
    | .none => missing) (asks.explain (.call query)) ?_).congr ?_
  · intro value
    cases value with
    | none => exact none
    | some value => exact some value
  · intro reply
    cases reply with
    | ok value => rfl
    | error errno =>
        by_cases absent : errno = .enoent <;>
          simp [FileSystem.found, sought, absent, bind, Except.bind]

theorem asksOnce_stable (snapshot : Snapshot) {path : Path} (clean : ¬ path.HasNul)
    (after : String) :
    (snapshot.stable (σ := σ) path after).AsksOnce .identity (.stat path)
      (snapshot.named "stat" path after) := by
  unfold stable named
  refine asksOnce_sought (.stat path) (FileSystem.asksOnce_lookup .identity clean) "stat"
    ?_ fun metadata => ?_
  · exact .throw _
  · exact (silent_compare _ _ _).after_log _ _

theorem asksOnce_stableLink (snapshot : Snapshot) {path : Path} (clean : ¬ path.HasNul)
    (after : String) :
    (snapshot.stableLink (σ := σ) path after).AsksOnce .identity (.lstat path)
      (snapshot.named "lstat" path after) := by
  unfold stableLink named
  refine asksOnce_sought (.lstat path) (FileSystem.asksOnce_lookupLink .identity clean)
    "lstat" ?_ fun metadata => ?_
  · exact .throw _
  · exact (silent_compare _ _ _).after_log _ _

theorem asksOnce_stableOpen (snapshot : Snapshot) (fd : Descriptor) (after : String) :
    (snapshot.stableOpen (σ := σ) fd after).AsksOnce .identity (.fstat fd)
      (snapshot.handled after) := by
  refine (AsksOnce.bind (fun metadata => snapshot.compared metadata.identity after)
    ((FileSystem.asksOnce_inspect .identity fd).explain _) ?_).congr ?_
  · exact fun metadata => (silent_compare _ _ _).after_log _ _
  · intro reply
    cases reply <;> rfl

theorem asksOnce_absent {path : Path} (clean : ¬ path.HasNul) (after : String) :
    (absent (σ := σ) path after).AsksOnce .absence (.stat path) (vacated path after) := by
  unfold absent vacated
  refine asksOnce_sought (.stat path) (FileSystem.asksOnce_lookup .absence clean) "stat"
    ?_ fun metadata => ?_
  · exact .log _ _
  · exact .throw _

theorem asksOnce_linkCount {path : Path} (clean : ¬ path.HasNul) (minimum : UInt64)
    (after : String) :
    (linkCount (σ := σ) path minimum after).AsksOnce .linkCount (.stat path)
      (counted path minimum after) := by
  unfold linkCount counted
  refine asksOnce_sought (.stat path) (FileSystem.asksOnce_lookup .linkCount clean) "stat"
    ?_ fun metadata => ?_
  · exact .throw _
  · refine .after_log ?_ _ _
    by_cases few : metadata.linkCount < minimum
    · simp only [numbered, few, if_true]
      exact .throw _
    · simp only [numbered, few, if_false]
      exact .pure _

end Snapshot

/-! ## Changes -/

theorem Outcome.ofResult_eq_passed_iff {result : Except Interrupt Unit} :
    Outcome.ofResult result = .passed ↔ ∃ value, result = .ok value := by
  cases result with
  | ok value => simp [Outcome.ofResult]
  | error interrupt => cases interrupt <;> simp [Outcome.ofResult]

namespace Scenario

/-- What the result of a change means for its scenario. -/
def judged (privileges : Privileges) (trigger : Trigger) (operation : String)
    (result : Except IoError Unit) : Except Interrupt Unit :=
  match Effect.ofResult trigger.toleratesDenial result with
  | .applied => .ok ()
  | .unsupported errno => .error (.skip (.unsupported operation errno))
  | .denied errno => .error (.skip (.denied operation errno privileges))
  | .failed source => .error (.fail (.call operation source))

theorem ofResult_eq_applied_iff {tolerates : Bool} {result : Except IoError Unit} :
    Effect.ofResult tolerates result = .applied ↔ result = .ok () := by
  cases result with
  | ok => simp [Effect.ofResult]
  | error error =>
      cases error with
      | custom => simp [Effect.ofResult]
      | os errno =>
          rw [Effect.ofResult]
          by_cases lacking : errno = .enosys ∨ errno = .eopnotsupp
          · simp [if_pos lacking]
          · rw [if_neg lacking]
            by_cases denied : errno = .eperm ∧ tolerates
            · simp [if_pos denied]
            · simp [if_neg denied]

theorem judged_eq_ok_iff {privileges : Privileges} {trigger : Trigger} {operation : String}
    {result : Except IoError Unit} :
    judged privileges trigger operation result = .ok () ↔ result = .ok () := by
  rw [← ofResult_eq_applied_iff, judged]
  cases Effect.ofResult trigger.toleratesDenial result <;> simp

variable {σ : Type}

theorem silent_judge (privileges : Privileges) (trigger : Trigger) (operation : String)
    (result : Except IoError Unit) :
    (judge privileges trigger operation result : Attempt σ Interrupt Unit).Silent
      (judged privileges trigger operation result) := by
  unfold judge judged
  cases Effect.ofResult trigger.toleratesDenial result with
  | applied => exact .log _ _
  | unsupported errno => exact .after_log (.throw _) _ _
  | denied errno => exact .after_log (.throw _) _ _
  | failed source => exact .throw _

namespace Scene

theorem ensures_judge [Kernel σ] (scene : Scene) (operation : String)
    {change : Attempt σ IoError Unit}
    {post : Except Interrupt Unit → List Asked → Prop}
    (ensured : change.Ensures fun result asked =>
      post (judged scene.privileges scene.trigger operation result) asked) :
    (scene.judge operation change).Ensures post := by
  refine Attempt.Ensures.bind_settle (ensured.mono fun result asked holds => ?_)
  exact (silent_judge _ _ _ _).ensures_of (by simpa using holds)

end Scene

/-- The result of a call of which only the success matters. -/
def succeeded {ρ : Type} (reply : Except Errno ρ) : Except IoError Unit :=
  (reply.mapError .os).map fun _ => ()

@[simp] theorem succeeded_ok {ρ : Type} (value : ρ) : succeeded (.ok value) = .ok () := rfl

@[simp] theorem succeeded_error {ρ : Type} (errno : Errno) :
    succeeded (.error errno : Except Errno ρ) = .error (.os errno) := rfl

variable [Kernel σ]

theorem ensures_discard_issue (purpose : Purpose) {call : Call}
    (clean : ∀ path ∈ call.paths, ¬ path.HasNul) :
    (discard (FileSystem.issue purpose call) : Attempt σ IoError Unit).Ensures
      fun result asked =>
        ∃ reply, result = succeeded reply ∧ Answered purpose call reply asked := by
  refine .discard ((FileSystem.ensures_issue_of_clean purpose clean).mono ?_)
  intro result asked told
  obtain ⟨reply, rfl, answered⟩ := told
  exact ⟨reply, rfl, answered⟩

def OpenChange.call? (owner : Owner) (fd : Descriptor) : OpenChange → Option Call
  | write _ | pwrite .. => none
  | ftruncate length => some (.ftruncateTo fd length)
  | fchmod mode => some (.fchmod fd mode)
  | fchown => some (.fchown fd owner.uid owner.gid)
  | futimens seconds => some (.futimens fd (wholeSeconds seconds) (wholeSeconds seconds))
  | fsetxattr name value => some (.fsetxattr fd name (.ofText value))
  | fremovexattr name => some (.fremovexattr fd name)
  | fallocate offset length => some (.reserve fd 0 offset length)

inductive OpenChange.Applied (owner : Owner) (fd : Descriptor) :
    OpenChange → Except IoError Unit → List Asked → Prop
  | wrote {text : String} {result : Except IoError Unit} {asked : List Asked}
      (written : FileSystem.Written .change fd .next (.ofText text) result asked) :
      Applied owner fd (.write text) result asked
  | overwrote {text : String} {offset : Nat} {result : Except IoError Unit} {asked : List Asked}
      (written : FileSystem.Written .change fd (.at offset) (.ofText text) result asked) :
      Applied owner fd (.pwrite text offset) result asked
  | called {change : OpenChange} {call : Call} {reply : Except Errno call.Reply}
      {asked : List Asked} (made : change.call? owner fd = some call)
      (answered : Answered .change call reply asked) :
      Applied owner fd change (succeeded reply) asked

theorem OpenChange.ensures_apply (owner : Owner) (fd : Descriptor) (change : OpenChange) :
    (change.apply (σ := σ) owner fd).Ensures (Applied owner fd change) := by
  have made : ∀ call, change.call? owner fd = some call → call.paths = [] →
      (issueChange (σ := σ) call).Ensures (Applied owner fd change) := by
    intro call made none
    refine (ensures_discard_issue .change (by simp [none])).mono ?_
    intro result asked told
    obtain ⟨reply, rfl, answered⟩ := told
    exact .called made answered
  cases change with
  | write text =>
      exact (FileSystem.ensures_writeAll .change fd .next _).mono fun _ _ => .wrote
  | pwrite text offset =>
      exact (FileSystem.ensures_writeAll .change fd (.at offset) _).mono fun _ _ => .overwrote
  | ftruncate | fchmod | fchown | futimens | fsetxattr | fremovexattr | fallocate =>
      exact made _ rfl rfl

end Scenario

/-! ## Paths -/

theorem Path.not_hasNul_join {base : Path} {name : String} (clean : ¬ base.HasNul)
    (plain : ¬ HasNul name) : ¬ (base.join name).HasNul := by
  unfold join separator
  split
  · exact plain
  · unfold HasNul at *
    split <;> simp_all

/-- A path holds the NULs of the name that it leads to. -/
theorem Path.hasNul_join {base : Path} {name : String} (nul : HasNul name) :
    (base.join name).HasNul := by
  unfold join
  split
  · exact nul
  · unfold HasNul at *
    simp [nul]

/-- Seen from one directory, relative names are told apart. -/
theorem Path.join_injective {base : Path} {first second : String} (left : ¬ IsAbsolute first)
    (right : ¬ IsAbsolute second) (same : base.join first = base.join second) : first = second := by
  unfold join at same
  rw [if_neg left, if_neg right] at same
  exact (String.append_right_inj _).1 same

/-- A directory whose names hold no NUL holds none itself. -/
theorem Path.not_hasNul_of_join {base : Path} {name : String} (relative : ¬ IsAbsolute name)
    (clean : ¬ (base.join name).HasNul) : ¬ base.HasNul := by
  intro nul
  apply clean
  unfold join
  rw [if_neg relative]
  unfold HasNul at *
  simp [nul]

namespace Scenario

theorem Role.not_isAbsolute_fileName (trigger : Trigger) (role : Role) :
    ¬ Path.IsAbsolute (role.fileName trigger) := by
  cases role with
  | fixture => cases trigger <;> decide
  | renamed =>
      show ¬ Path.IsAbsolute Fixture.renameTarget
      decide
  | hardlink =>
      show ¬ Path.IsAbsolute Fixture.hardlink
      decide
  | secondHardlink =>
      show ¬ Path.IsAbsolute Fixture.secondHardlink
      decide

theorem Role.fileName_injective (trigger : Trigger) :
    Function.Injective (Role.fileName trigger) := by
  have others : Fixture.renameTarget ≠ Fixture.hardlink ∧
      Fixture.renameTarget ≠ Fixture.secondHardlink ∧
      Fixture.hardlink ≠ Fixture.secondHardlink := by decide
  have fixture : trigger.fixture ≠ Fixture.renameTarget ∧ trigger.fixture ≠ Fixture.hardlink ∧
      trigger.fixture ≠ Fixture.secondHardlink := by
    cases trigger <;> decide
  intro first second same
  cases first <;> cases second <;> simp only [fileName] at same <;>
    simp_all [eq_comm]

theorem Role.not_hasNul_fileName (trigger : Trigger) (role : Role) :
    ¬ Path.HasNul (role.fileName trigger) := by
  cases role with
  | fixture => cases trigger <;> decide
  | renamed =>
      show ¬ Path.HasNul Fixture.renameTarget
      decide
  | hardlink =>
      show ¬ Path.HasNul Fixture.hardlink
      decide
  | secondHardlink =>
      show ¬ Path.HasNul Fixture.secondHardlink
      decide

theorem PathChange.not_hasNul_paths {path : Role → Path} (clean : ∀ role, ¬ (path role).HasNul)
    (owner : Owner) (file : Role) (change : PathChange) :
    ∀ one ∈ (change.call path owner file).paths, ¬ one.HasNul := by
  cases change <;> simp [PathChange.call, Call.truncateTo, Call.paths, clean]

theorem Scene.not_hasNul_path {scene : Scene} (clean : ¬ scene.base.HasNul) (role : Role) :
    ¬ (scene.path role).HasNul :=
  Path.not_hasNul_join clean (Role.not_hasNul_fileName _ _)

theorem not_hasNul_fixture {base : Path} (clean : ¬ base.HasNul) (trigger : Trigger) :
    ¬ (base.join trigger.fixture).HasNul :=
  Path.not_hasNul_join clean (Role.not_hasNul_fileName trigger .fixture)

end Scenario

/-! ## Beginnings -/

namespace Fixture

inductive Resolved (base : Path) (trigger : Trigger) :
    Except Interrupt Snapshot → List Asked → Prop
  | missing :
      Resolved base trigger (.error (.skip (.fixtureMissing trigger.fixture)))
        [⟨.snapshot, ⟨.stat (base.join trigger.fixture), .error .enoent⟩⟩]
  | refused {errno : Errno} (other : errno ≠ .enoent) :
      Resolved base trigger (.error (.fail (.call "stat" (.os errno))))
        [⟨.snapshot, ⟨.stat (base.join trigger.fixture), .error errno⟩⟩]
  | drifted {metadata : Metadata} {again : Except Errno Metadata} {failure : Failure}
      (judged : Snapshot.named ⟨metadata.identity⟩ "stat" (base.join trigger.fixture)
        "repeated stat" again = .error failure) :
      Resolved base trigger (.error (.fail failure))
        [⟨.snapshot, ⟨.stat (base.join trigger.fixture), .ok metadata⟩⟩,
          ⟨.identity, ⟨.stat (base.join trigger.fixture), again⟩⟩]
  | confirmed {metadata : Metadata} {again : Except Errno Metadata}
      (judged : Snapshot.named ⟨metadata.identity⟩ "stat" (base.join trigger.fixture)
        "repeated stat" again = .ok ()) :
      Resolved base trigger (.ok ⟨metadata.identity⟩)
        [⟨.snapshot, ⟨.stat (base.join trigger.fixture), .ok metadata⟩⟩,
          ⟨.identity, ⟨.stat (base.join trigger.fixture), again⟩⟩]

variable {σ : Type} [Kernel σ]

theorem ensures_resolve {base : Path} (trigger : Trigger)
    (clean : ¬ (base.join trigger.fixture).HasNul) :
    (resolve (σ := σ) base trigger).Ensures (Resolved base trigger) := by
  unfold resolve
  have looked := ((FileSystem.asksOnce_lookup (σ := σ) .snapshot clean).explain
    (Failure.call "stat")).explain Interrupt.fail
  refine looked.ensures_bind ?_ ?_
  · intro reply error failed
    cases reply with
    | ok => contradiction
    | error errno =>
        by_cases missing : errno = .enoent
        · simp [FileSystem.found, missing] at failed
        · simp only [FileSystem.found, missing, if_false, Attempt.mapError_error] at failed
          cases failed
          exact .refused missing
  · intro reply value same
    cases reply with
    | error errno =>
        by_cases missing : errno = .enoent
        · simp only [FileSystem.found, missing, if_true, Attempt.mapError_ok] at same
          cases same
          rw [missing]
          exact (Attempt.Silent.after_log (.throw _) _ _).ensures_of .missing
        · simp [FileSystem.found, missing] at same
    | ok metadata =>
        cases same
        have confirmed := (Snapshot.asksOnce_stable (σ := σ) ⟨metadata.identity⟩ clean
          "repeated stat").explain Interrupt.fail
        refine confirmed.ensures_bind ?_ ?_
        · intro again error failed
          obtain ⟨failure, judged, rfl⟩ := Attempt.mapError_eq_error_iff.1 failed
          exact .drifted judged
        · intro again value passed
          have judged := Attempt.mapError_eq_ok_iff.1 passed
          exact (Attempt.Silent.after_log (.pure _) _ _).ensures_of (.confirmed judged)

end Fixture

namespace Scenario

def owned (path : Path) : Except Errno Metadata → Except Failure Owner :=
  Snapshot.sought "stat" (.error (.vanished "stat" path)) fun metadata =>
    .ok ⟨metadata.uid, metadata.gid⟩

theorem owned_eq_ok_iff {path : Path} {reply : Except Errno Metadata} {owner : Owner} :
    owned path reply = .ok owner ↔
      ∃ metadata, reply = .ok metadata ∧ owner = ⟨metadata.uid, metadata.gid⟩ := by
  cases reply with
  | ok metadata => simp [owned, Snapshot.sought, eq_comm]
  | error errno => by_cases missing : errno = .enoent <;> simp [owned, Snapshot.sought, missing]

variable {σ : Type} [Kernel σ]

theorem asksOnce_readOwner {path : Path} (clean : ¬ path.HasNul) :
    (readOwner (σ := σ) path).AsksOnce .owner (.stat path) (owned path) := by
  unfold readOwner owned
  refine Snapshot.asksOnce_sought (.stat path) (FileSystem.asksOnce_lookup .owner clean)
    "stat" ?_ fun metadata => ?_
  · exact .throw _
  · exact .pure _

theorem ensures_ownerFor (trigger : Trigger) {path : Path} (clean : ¬ path.HasNul) :
    (ownerFor (σ := σ) trigger path).Ensures fun result asked =>
      (result = .ok ⟨0, 0⟩ ∧ asked = [] ∧ ¬ readsOwner trigger) ∨
        ∃ reply, result = (owned path reply).mapError .fail ∧
          asked = [⟨.owner, ⟨.stat path, reply⟩⟩] ∧ readsOwner trigger := by
  unfold ownerFor
  by_cases reads : readsOwner trigger
  · rw [if_pos reads]
    exact ((asksOnce_readOwner clean).explain Interrupt.fail).ensures_each fun reply =>
      .inr ⟨reply, rfl, rfl, reads⟩
  · rw [if_neg reads]
    exact .pure (.inl ⟨rfl, rfl, reads⟩)

end Scenario

end CopyUp
