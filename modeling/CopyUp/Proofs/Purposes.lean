import CopyUp.Proofs.Course

/-!
# What a scenario asks, and for which purpose

The purpose of a call is not seen by the kernel, so laws that speak of it are worth as much as the
purposes are true to the calls. In a scenario they are: a purpose leaves little choice about the
call, and the questions that are not compared with the snapshot are asked about few names only.
-/

namespace CopyUp

/-- The calls that change a file, its attributes or its names. -/
def Call.mutates : Call → Bool
  | write .. | pwrite .. | truncate .. | ftruncate .. | chmod .. | fchmod .. | chown .. | lchown ..
  | fchown .. | rename .. | link .. | unlink .. | utimes .. | utimensat .. | futimens ..
  | setxattr .. | lsetxattr .. | fsetxattr .. | removexattr .. | lremovexattr .. | fremovexattr ..
  | fallocate .. => true
  | _ => false

namespace Scenario

/-- The files that an earlier run of the trigger may have left behind. -/
def leftovers : Trigger → List Role
  | .rename => [.renamed]
  | .linkCreation => [.hardlink, .secondHardlink]
  | _ => []

/-- The files whose names are gone at some point of the trigger's scenario. -/
def vacancies : Trigger → List Role
  | .rename => [.fixture]
  | .linkCreation => [.hardlink]
  | _ => []

end Scenario

open Scenario (Role leftovers vacancies)

/-- The call is one that its purpose allows in the scenario of a trigger. -/
def Asked.Apt (trigger : Trigger) (path : Role → Path) (one : Asked) : Prop :=
  match one.purpose with
  | .snapshot => one.call = .stat (path .fixture)
  | .identity => (∃ file, one.call = .stat (path file) ∨ one.call = .lstat (path file)) ∨
      ∃ fd, one.call = .fstat fd
  | .absence => ∃ file ∈ vacancies trigger, one.call = .stat (path file)
  | .linkCount => trigger = .linkCreation ∧ one.call = .stat (path .fixture)
  | .owner => trigger = .ownershipChange ∧ one.call = .stat (path .fixture)
  | .stale => ∃ file ∈ leftovers trigger, one.call = .unlink (path file)
  | .cleanUp => ∃ file ∈ leftovers trigger, one.call = .unlink (path file)
  | .change => one.call.mutates
  | .acquire => ∃ file flags, one.call = .openFile (path file) flags
  | .release => ∃ fd, one.call = .close fd
  | _ => False

namespace FileSystem

theorem Offered.same {purpose : Purpose} {fd : Descriptor} {bytes : Bytes} {place : Placement}
    {reply : Except Errno Nat} {asked : List Asked}
    (offered : Offered purpose fd bytes place reply asked) {one : Asked} (member : one ∈ asked) :
    one.purpose = purpose ∧ ((∃ part, one.call = .write fd part) ∨
      ∃ part offset, one.call = .pwrite fd part offset) := by
  cases offered with
  | next answered => exact ⟨(answered.same member).1, .inl ⟨_, (answered.same member).2⟩⟩
  | «at» answered => exact ⟨(answered.same member).1, .inr ⟨_, _, (answered.same member).2⟩⟩

theorem Written.same {purpose : Purpose} {fd : Descriptor} {place : Placement} {bytes : Bytes}
    {result : Except IoError Unit} {asked : List Asked}
    (written : Written purpose fd place bytes result asked) {one : Asked} (member : one ∈ asked) :
    one.purpose = purpose ∧ ((∃ part, one.call = .write fd part) ∨
      ∃ part offset, one.call = .pwrite fd part offset) := by
  induction written with
  | done => contradiction
  | refused _ offered => exact offered.same member
  | stuck _ offered => exact offered.same member
  | took _ _ offered _ ih =>
      rcases List.mem_append.1 member with before | later
      · exact offered.same before
      · exact ih later

end FileSystem

namespace Scenario

variable {trigger : Trigger} {path : Role → Path} {asked : List Asked}

/-! ## Changes -/

theorem PathChange.mutates_call (path : Role → Path) (owner : Owner) (file : Role)
    (change : PathChange) : (change.call path owner file).mutates := by
  cases change <;> rfl

theorem OpenChange.Applied.apt {owner : Owner} {fd : Descriptor} {change : OpenChange}
    {result : Except IoError Unit} (applied : change.Applied owner fd result asked) :
    ∀ one ∈ asked, one.Apt trigger path := by
  intro one member
  cases applied with
  | wrote written | overwrote written =>
      obtain ⟨purpose, ⟨part, call⟩ | ⟨part, offset, call⟩⟩ := written.same member <;>
        simp [Asked.Apt, purpose, call, Call.mutates]
  | called made answered =>
      obtain ⟨purpose, call⟩ := answered.same member
      simp only [Asked.Apt, purpose, call]
      cases change <;> cases made <;> rfl

theorem apt_of_opening {file : Role} {flags : OpenFlags} {reply : Except Errno Descriptor}
    (answered : Answered .acquire (.openFile (path file) flags) reply asked) :
    ∀ one ∈ asked, one.Apt trigger path := by
  intro one member
  obtain ⟨purpose, call⟩ := answered.same member
  simp only [Asked.Apt, purpose, call]
  exact ⟨file, flags, rfl⟩

/-! ## Steps -/

def Step.Apt (trigger : Trigger) : Step → Prop
  | removeStale file | cleanUp file => file ∈ leftovers trigger
  | check .absent file _ => file ∈ vacancies trigger
  | check (.linkCount _) file _ => trigger = .linkCreation ∧ file = .fixture
  | _ => True

instance (trigger : Trigger) : DecidablePred (Step.Apt trigger) := fun step => by
  unfold Step.Apt
  split <;> infer_instance

theorem apt_of_mem_steps : ∀ step ∈ steps trigger, step.Apt trigger := by
  cases trigger <;> decide

theorem Checked.apt {snapshot : Snapshot} {check : Check} {file : Role} {after : String}
    {result : Except Failure Unit}
    (checked : Checked snapshot (path file) after check result asked)
    (apt : Step.Apt trigger (.check check file after)) : ∀ one ∈ asked, one.Apt trigger path := by
  have byPath : ∀ reply, Asked.Apt trigger path ⟨.identity, ⟨.stat (path file), reply⟩⟩ :=
    fun _ => .inl ⟨file, .inl rfl⟩
  have byLink : ∀ reply, Asked.Apt trigger path ⟨.identity, ⟨.lstat (path file), reply⟩⟩ :=
    fun _ => .inl ⟨file, .inr rfl⟩
  cases checked with
  | stable | notByPath => exact List.forall_mem_singleton.2 (byPath _)
  | stableLink => exact List.forall_mem_singleton.2 (byLink _)
  | notByLink =>
      exact List.forall_mem_cons.2 ⟨byPath _, List.forall_mem_singleton.2 (byLink _)⟩
  | notOpened _ _ answered =>
      refine List.forall_mem_cons.2 ⟨byPath _, List.forall_mem_cons.2 ⟨byLink _, ?_⟩⟩
      exact apt_of_opening answered
  | @byHandle _ _ _ fd _ _ _ _ answered =>
      rw [List.forall_mem_append, List.forall_mem_cons, List.forall_mem_cons]
      refine ⟨⟨byPath _, byLink _, apt_of_opening answered⟩, ?_⟩
      exact List.forall_mem_cons.2 ⟨.inr ⟨fd, rfl⟩, List.forall_mem_singleton.2 ⟨fd, rfl⟩⟩
  | absent => exact List.forall_mem_singleton.2 ⟨file, apt, rfl⟩
  | linkCount =>
      obtain ⟨only, rfl⟩ := apt
      exact List.forall_mem_singleton.2 ⟨only, rfl⟩

theorem OpenPerformed.apt {scene : Scene} {fd : Descriptor} {step : OpenStep}
    {result : Except Interrupt Unit} (performed : OpenPerformed scene fd step result asked) :
    ∀ one ∈ asked, one.Apt trigger path := by
  cases performed with
  | change applied => exact applied.apt
  | stable => exact List.forall_mem_singleton.2 (.inr ⟨fd, rfl⟩)

theorem Performed.apt {scene : Scene} {step : Step} {result : Except Interrupt Unit}
    (performed : Performed scene step result asked) (apt : step.Apt trigger) :
    ∀ one ∈ asked, one.Apt trigger scene.path := by
  cases performed with
  | removeStale | cleanUp => exact List.forall_mem_singleton.2 ⟨_, apt, rfl⟩
  | @change change file _ _ answered =>
      intro one member
      obtain ⟨purpose, call⟩ := answered.same member
      simp only [Asked.Apt, purpose, call]
      exact change.mutates_call _ _ _
  | check checked => exact checked.apt apt
  | notOpened answered => exact apt_of_opening answered
  | @opened _ _ fd _ _ _ _ answered inTurn =>
      rw [List.forall_mem_append, List.forall_mem_append]
      refine ⟨⟨apt_of_opening answered, ?_⟩, List.forall_mem_singleton.2 ⟨fd, rfl⟩⟩
      exact inTurn.forall_mem fun _ _ _ _ performed => performed.apt

/-! ## Whole scenarios -/

def rolePath (base : Path) (trigger : Trigger) (role : Role) : Path :=
  base.join (role.fileName trigger)

theorem rolePath_injective (base : Path) (trigger : Trigger) :
    Function.Injective (rolePath base trigger) := by
  intro first second same
  exact Role.fileName_injective trigger (Path.join_injective
    (Role.not_isAbsolute_fileName _ _) (Role.not_isAbsolute_fileName _ _) same)

theorem Scene.path_injective (scene : Scene) : Function.Injective scene.path :=
  rolePath_injective scene.base scene.trigger

theorem apt_of_resolved {base : Path} {result : Except Interrupt Snapshot}
    (resolved : Fixture.Resolved base trigger result asked) :
    ∀ one ∈ asked, one.Apt trigger (rolePath base trigger) := by
  have first : ∀ reply, Asked.Apt trigger (rolePath base trigger)
      ⟨.snapshot, ⟨.stat (base.join trigger.fixture), reply⟩⟩ := fun _ => rfl
  have again : ∀ reply, Asked.Apt trigger (rolePath base trigger)
      ⟨.identity, ⟨.stat (base.join trigger.fixture), reply⟩⟩ :=
    fun _ => .inl ⟨.fixture, .inl rfl⟩
  cases resolved with
  | missing | refused => exact List.forall_mem_singleton.2 (first _)
  | drifted | confirmed =>
      exact List.forall_mem_cons.2 ⟨first _, List.forall_mem_singleton.2 (again _)⟩

/-- Every call of a scenario is one that its purpose allows. -/
theorem Exercised.apt {base : Path} {privileges : Privileges} {result : Except Interrupt Unit}
    (exercised : Exercised trigger base privileges result asked) :
    ∀ one ∈ asked, one.Apt trigger (rolePath base trigger) := by
  have owner : readsOwner trigger → ∀ reply, Asked.Apt trigger (rolePath base trigger)
      ⟨.owner, ⟨.stat (base.join trigger.fixture), reply⟩⟩ := fun reads _ =>
    ⟨by simpa [readsOwner] using reads, rfl⟩
  cases exercised with
  | unresolved resolved => exact apt_of_resolved resolved
  | ownerless resolved _ reads =>
      refine List.forall_mem_append.2 ⟨apt_of_resolved resolved, ?_⟩
      exact List.forall_mem_singleton.2 (owner reads _)
  | @steps _ _ _ _ asking _ resolved known inTurn =>
      have stepwise := inTurn.forall_mem fun step member _ _ performed =>
        performed.apt (apt_of_mem_steps step member)
      have questions : ∀ one ∈ asking, one.Apt trigger (rolePath base trigger) := by
        rcases known with rfl | ⟨reply, rfl, _, reads⟩
        · simp
        · exact List.forall_mem_singleton.2 (owner reads reply)
      have before := List.forall_mem_append.2 ⟨apt_of_resolved resolved, questions⟩
      exact List.forall_mem_append.2 ⟨before, stepwise⟩

end Scenario

end CopyUp
