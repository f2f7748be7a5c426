import CopyUp.Proofs.Efforts
import CopyUp.Proofs.Interruption
import Mathlib.Data.List.Forall2

/-!
# The program of a trigger

What a scenario may change is fixed in advance: a list of calls with their arguments, in which only
the number of an open file and the owner to set are left open. Every run makes a beginning of this
list, and it goes on only after a call that was granted.
-/

namespace CopyUp.Scenario

open Asked (mutations)

structure Planned where
  /-- The call, given the number of the open file that it may work through. -/
  call : Descriptor → Call
  /-- The call removes what an earlier run may have left behind. -/
  stale : Bool := false

namespace Planned

def named (call : Call) : Planned := { call := fun _ => call }

def leftover (path : Path) : Planned := { call := fun _ => .unlink path, stale := true }

def through (call : Descriptor → Call) : Planned := { call }

def Asks (planned : Planned) (one : Asked) : Prop := ∃ fd, one.call = planned.call fd

/-- The call is made and granted, or there was nothing to remove. -/
def Met (planned : Planned) (one : Asked) : Prop :=
  planned.Asks one ∧ (one.Granted ∨ planned.stale ∧ one.errno? = some .enoent)

/-- A call after which the program goes on is complete in itself. -/
theorem Met.attach {planned : Planned} {one : Asked} (met : planned.Met one) (rest : List Asked) :
    one.attach rest = one :: rest := by
  rcases met.2 with granted | ⟨_, missing⟩
  · exact Asked.attach_of_granted granted rest
  · exact Asked.attach_of_errno? missing (by decide) rest

end Planned

/-- The calls are a beginning of the program, and each but the last is met. -/
inductive Begins : List Planned → List Asked → Prop
  | stopped {program : List Planned} : Begins program []
  | last {planned : Planned} {rest : List Planned} {one : Asked} (asks : planned.Asks one) :
      Begins (planned :: rest) [one]
  | next {planned : Planned} {rest : List Planned} {one : Asked} {more : List Asked}
      (met : planned.Met one) (later : Begins rest more) :
      Begins (planned :: rest) (one :: more)

/-- The calls that each trigger may change something with. Every change of an attribute names what
it sets, and every removal of one what the call of the same kind has set. -/
def program (trigger : Trigger) (path : Role → Path) (owner : Owner) : List Planned :=
  match trigger with
  | .contentWrite => [
      .through (.write · (.ofText " appended data")),
      .through (.pwrite · (.ofText "COPY") 0)]
  | .sizeChange => [
      .named (.truncate (path .fixture) 10),
      .through (.ftruncate · 5)]
  | .permissionChange => [
      .named (.chmod (path .fixture) 0o755),
      .through (.fchmod · 0o700)]
  | .ownershipChange => [
      .named (.chown (path .fixture) owner.uid owner.gid),
      .named (.lchown (path .fixture) owner.uid owner.gid),
      .through (.fchown · owner.uid owner.gid)]
  | .rename => [
      .leftover (path .renamed),
      .named (.rename (path .fixture) (path .renamed)),
      .named (.unlink (path .renamed))]
  | .linkCreation => [
      .leftover (path .hardlink),
      .leftover (path .secondHardlink),
      .named (.link (path .fixture) (path .hardlink)),
      .named (.link (path .fixture) (path .secondHardlink)),
      .named (.unlink (path .hardlink)),
      .named (.unlink (path .secondHardlink))]
  | .timestampChange => [
      .named (.utimes (path .fixture) ⟨1000000000, 0⟩ ⟨1000000000, 0⟩),
      .named (.utimensat (path .fixture) ⟨1000000001, 0⟩ ⟨1000000001, 0⟩),
      .through (.futimens · ⟨1000000002, 0⟩ ⟨1000000002, 0⟩)]
  | .attributeSet => [
      .named (.setxattr (path .fixture) "user.test_attr" (.ofText "test_value")),
      .named (.lsetxattr (path .fixture) "user.test_attr2" (.ofText "test_value")),
      .through (.fsetxattr · "user.test_attr3" (.ofText "test_value")),
      .named (.removexattr (path .fixture) "user.test_attr"),
      .named (.lremovexattr (path .fixture) "user.test_attr2"),
      .through (.fremovexattr · "user.test_attr3")]
  | .spacePreallocate => [
      .through (.fallocate · 0 0 1024)]

/-! ## Beginnings -/

namespace Begins

variable {first second : List Planned} {asked : List Asked}

theorem of_still (still : ∀ one ∈ asked, one.call.mutates = false) :
    Begins first (mutations asked) := by
  rw [Asked.mutations_of_still still]
  exact .stopped

theorem append_right (begins : Begins first asked) : Begins (first ++ second) asked := by
  induction begins with
  | stopped => exact .stopped
  | last asks => exact .last asks
  | next met _ ih => exact .next met ih

theorem after {done : List Asked} (met : List.Forall₂ Planned.Met first done)
    (later : Begins second asked) : Begins (first ++ second) (done ++ asked) := by
  induction met with
  | nil => exact later
  | cons one _ ih => exact .next one ih

end Begins

/-- The calls carry out the program, and what follows them starts something new. -/
def Fulfils (program : List Planned) (asked : List Asked) : Prop :=
  ∃ done, List.Forall₂ Planned.Met program done ∧
    ∀ more, mutations (asked ++ more) = done ++ mutations more

namespace Fulfils

variable {first second : List Planned} {asked more : List Asked}

theorem of_still (still : ∀ one ∈ asked, one.call.mutates = false) : Fulfils [] asked :=
  ⟨[], .nil, Asked.mutations_append_of_still still⟩

theorem append (left : Fulfils first asked) (right : Fulfils second more) :
    Fulfils (first ++ second) (asked ++ more) := by
  have ⟨done, met, before⟩ := left
  have ⟨later, also, after⟩ := right
  refine ⟨done ++ later, List.rel_append met also, fun rest => ?_⟩
  rw [List.append_assoc, before, after, List.append_assoc]

theorem begins (fulfils : Fulfils first asked) : Begins first (mutations asked) := by
  have ⟨done, met, same⟩ := fulfils
  have made := same []
  rw [List.append_nil, Asked.mutations_nil, List.append_nil] at made
  rw [made, ← List.append_nil first, ← List.append_nil done]
  exact .after met .stopped

/-- What comes after a part of the program that is carried out follows the rest of it. -/
theorem begins_append (fulfils : Fulfils first asked) (later : Begins second (mutations more)) :
    Begins (first ++ second) (mutations (asked ++ more)) := by
  have ⟨done, met, same⟩ := fulfils
  rw [same]
  exact .after met later

end Fulfils

def CarriesOut {ε : Type} (program : List Planned) :
    Except ε Unit → List Asked → Prop
  | .ok _, asked => Fulfils program asked
  | .error _, asked => Begins program (mutations asked)

namespace CarriesOut

variable {ε δ : Type} {program : List Planned} {result : Except ε Unit} {asked : List Asked}

theorem begins (carries : CarriesOut program result asked) :
    Begins program (mutations asked) := by
  cases result with
  | ok => exact Fulfils.begins carries
  | error => exact carries

theorem of_still (still : ∀ one ∈ asked, one.call.mutates = false) :
    CarriesOut [] result asked := by
  have nothing := Fulfils.of_still still
  cases result with
  | ok => exact nothing
  | error => exact nothing.begins

/-- It matters only whether it works. -/
theorem congr {other : Except δ Unit} (carries : CarriesOut program result asked)
    (same : (∃ value, result = .ok value) ↔ ∃ value, other = .ok value) :
    CarriesOut program other asked := by
  cases result with
  | ok =>
      have ⟨_, worked⟩ := same.1 ⟨_, rfl⟩
      cases worked
      exact carries
  | error =>
      cases other with
      | ok =>
          have ⟨_, worked⟩ := same.2 ⟨_, rfl⟩
          contradiction
      | error => exact carries

/-- Calls around it that change nothing do not matter. -/
theorem within {before after : List Asked} (carries : CarriesOut program result asked)
    (opening : ∀ one ∈ before, one.call.mutates = false)
    (closing : ∀ one ∈ after, one.call.mutates = false) :
    CarriesOut program result (before ++ asked ++ after) := by
  cases result with
  | ok =>
      have opened : Fulfils program (before ++ asked) := (Fulfils.of_still opening).append carries
      have whole := opened.append (Fulfils.of_still closing)
      rw [List.append_nil] at whole
      exact whole
  | error =>
      show Begins program (mutations (before ++ asked ++ after))
      rw [Asked.mutations_still_append _ closing, Asked.mutations_append_of_still opening]
      exact carries

end CarriesOut

theorem carriesOut_of_inTurn {ε α : Type} {does : α → Except ε Unit → List Asked → Prop}
    {planned : α → List Planned} {items : List α} {result : Except ε Unit} {asked : List Asked}
    (inTurn : InTurn does items result asked)
    (each : ∀ item ∈ items, ∀ result asked, does item result asked →
      CarriesOut (planned item) result asked) :
    CarriesOut (items.flatMap planned) result asked := by
  induction inTurn with
  | done => exact .of_still (by simp)
  | stops failed => exact Begins.append_right (each _ (by simp) _ _ failed)
  | @goes _ _ result _ _ worked _ ih =>
      have first : Fulfils (planned _) _ := each _ (by simp) _ _ worked
      have rest := ih fun later member => each later (by simp [member])
      rw [List.flatMap_cons]
      cases result with
      | ok => exact first.append rest
      | error => exact first.begins_append rest

/-! ## Single changes -/

/-- A call that is met or refused in the end. -/
theorem CarriesOut.of_answered {ε : Type} {planned : Planned} {purpose : Purpose} {call : Call}
    {reply : Except Errno call.Reply} {result : Except ε Unit} {asked : List Asked}
    (answered : Answered purpose call reply asked) (mutates : call.mutates)
    (asks : planned.Asks ⟨purpose, ⟨call, reply⟩⟩)
    (met : result = .ok () → planned.Met ⟨purpose, ⟨call, reply⟩⟩) :
    CarriesOut [planned] result asked := by
  have made := answered.mutations_append mutates
  cases result with
  | ok =>
      have goes := met rfl
      refine ⟨[⟨purpose, ⟨call, reply⟩⟩], .cons goes .nil, fun more => ?_⟩
      rw [made, goes.attach, List.singleton_append]
  | error =>
      have alone := made []
      rw [List.append_nil] at alone
      show Begins [planned] (mutations asked)
      rw [alone]
      exact .last asks

/-- Writing some bytes is one call of the program. -/
theorem CarriesOut.of_written {planned : Planned} {purpose : Purpose} {fd : Descriptor}
    {place : FileSystem.Placement} {bytes : Bytes} {result : Except IoError Unit}
    {asked : List Asked} (written : FileSystem.Written purpose fd place bytes result asked)
    (some : bytes ≠ []) (asks : ∀ reply, planned.Asks (place.asked purpose fd bytes reply)) :
    CarriesOut [planned] result asked := by
  cases result with
  | ok =>
      have met : planned.Met (place.asked purpose fd bytes (.ok bytes.length)) :=
        ⟨asks _, .inl (place.granted_asked ..)⟩
      exact ⟨[_], .cons met .nil, written.mutations_append rfl some⟩
  | error =>
      have ⟨reply, made⟩ := written.exists_mutations some
      show Begins [planned] (mutations asked)
      rw [made]
      exact .last (asks reply)

/-! ## Steps -/

/-- The call of a change through an open file; of a write, the call that offers all its bytes. -/
def OpenChange.call (owner : Owner) (fd : Descriptor) : OpenChange → Call
  | write text => .write fd (.ofText text)
  | pwrite text offset => .pwrite fd (.ofText text) offset
  | ftruncate length => .ftruncateTo fd length
  | fchmod mode => .fchmod fd mode
  | fchown => .fchown fd owner.uid owner.gid
  | futimens seconds => .futimens fd (wholeSeconds seconds) (wholeSeconds seconds)
  | fsetxattr name value => .fsetxattr fd name (.ofText value)
  | fremovexattr name => .fremovexattr fd name
  | fallocate offset length => .reserve fd 0 offset length

theorem OpenChange.call_of_call? {owner : Owner} {fd : Descriptor} {change : OpenChange}
    {call : Call} (made : change.call? owner fd = some call) : call = change.call owner fd := by
  cases change <;> cases made <;> rfl

/-- The part of the program that an open step carries out. -/
def OpenStep.planned (owner : Owner) : OpenStep → List Planned
  | .change made => if made.calls then [.through (made.call owner)] else []
  | .stable _ => []

def Step.planned (path : Role → Path) (owner : Owner) : Step → List Planned
  | .removeStale file => [.leftover (path file)]
  | .change made file => [.named (made.call path owner file)]
  | .check .. => []
  | .opened _ steps => steps.flatMap (OpenStep.planned owner)
  | .cleanUp file => [.named (.unlink (path file))]

/-- The steps of a trigger are its program, with looks between the calls. -/
theorem program_eq_planned (trigger : Trigger) (path : Role → Path) (owner : Owner) :
    program trigger path owner = (steps trigger).flatMap (Step.planned path owner) := by
  cases trigger <;> rfl

theorem OpenChange.Applied.carriesOut {owner : Owner} {fd : Descriptor} {change : OpenChange}
    {result : Except IoError Unit} {asked : List Asked}
    (applied : change.Applied owner fd result asked) :
    CarriesOut (OpenStep.planned owner (.change change)) result asked := by
  have nothing : ∀ {place : FileSystem.Placement}, change.calls = false →
      FileSystem.Written .change fd place [] result asked →
        CarriesOut (OpenStep.planned owner (.change change)) result asked := by
    intro place none written
    rw [written.of_nil.2, OpenStep.planned, if_neg (by simp [none])]
    exact .of_still (by simp)
  cases applied with
  | @wrote text _ _ written | @overwrote text _ _ _ written =>
      by_cases empty : Bytes.ofText text = []
      · rw [empty] at written
        exact nothing (by simp [calls, empty]) written
      · rw [OpenStep.planned, if_pos (by simp [calls, empty])]
        exact .of_written written empty fun reply => ⟨fd, rfl⟩
  | @called _ call reply _ made answered =>
      have calls : change.calls = true := by cases change <;> first | rfl | contradiction
      have asks : (Planned.through (change.call owner)).Asks ⟨.change, ⟨call, reply⟩⟩ :=
        ⟨fd, OpenChange.call_of_call? made⟩
      rw [OpenStep.planned, if_pos calls]
      refine .of_answered answered (OpenChange.name_of_call? made).1 asks fun worked => ?_
      cases reply with
      | error => contradiction
      | ok value =>
          refine ⟨asks, .inl ?_⟩
          cases change <;> cases made <;> trivial

theorem carriesOut_judged {privileges : Privileges} {trigger : Trigger} {operation : String}
    {result : Except IoError Unit} {program : List Planned} {asked : List Asked}
    (carries : CarriesOut program result asked) :
    CarriesOut program (judged privileges trigger operation result) asked :=
  carries.congr ⟨fun ⟨_, worked⟩ => ⟨(), judged_eq_ok_iff.2 worked⟩,
    fun ⟨_, worked⟩ => ⟨(), judged_eq_ok_iff.1 worked⟩⟩

theorem OpenPerformed.carriesOut {scene : Scene} {fd : Descriptor} {step : OpenStep}
    {result : Except Interrupt Unit} {asked : List Asked}
    (performed : OpenPerformed scene fd step result asked) :
    CarriesOut (step.planned scene.owner) result asked := by
  cases performed with
  | change applied => exact carriesOut_judged applied.carriesOut
  | stable => exact .of_still (List.forall_mem_singleton.2 rfl)

/-- The removal of a file, which may or may not have to be there. -/
theorem carriesOut_unlink {purpose : Purpose} {path : Path} {stale : Bool}
    {result : Except Interrupt Unit} {reply : Except Errno Unit}
    (granted : result = .ok () →
      reply = .ok () ∨ stale ∧ reply = .error .enoent) :
    CarriesOut [{ call := fun _ => .unlink path, stale }] result
      [⟨purpose, ⟨.unlink path, reply⟩⟩] := by
  have answered : Answered purpose (.unlink path) reply [⟨purpose, ⟨.unlink path, reply⟩⟩] :=
    .once nofun
  refine .of_answered answered rfl ⟨0, rfl⟩ fun worked => ⟨⟨0, rfl⟩, ?_⟩
  rcases granted worked with rfl | ⟨leftover, rfl⟩
  · exact .inl trivial
  · exact .inr ⟨leftover, rfl⟩

theorem Performed.carriesOut {scene : Scene} {step : Step} {result : Except Interrupt Unit}
    {asked : List Asked} (performed : Performed scene step result asked) :
    CarriesOut (step.planned scene.path scene.owner) result asked := by
  cases performed with
  | @removeStale file reply =>
      apply carriesOut_unlink
      intro worked
      cases reply with
      | ok => exact .inl rfl
      | error errno =>
          by_cases missing : errno = .enoent
          · exact .inr ⟨rfl, by rw [missing]⟩
          · simp [FileSystem.removed, missing] at worked
  | @change made file reply _ answered =>
      refine carriesOut_judged (.of_answered answered (made.mutates_call ..) ⟨0, rfl⟩ ?_)
      intro worked
      cases reply with
      | error => contradiction
      | ok value =>
          refine ⟨⟨0, rfl⟩, .inl ?_⟩
          cases made <;> trivial
  | check checked => exact .of_still fun one member => (checked.still one member).2
  | notOpened answered => exact Begins.of_still (still_of_opening answered)
  | opened answered inTurn =>
      have used := carriesOut_of_inTurn inTurn fun _ _ _ _ performed => performed.carriesOut
      exact used.within (still_of_opening answered) (List.forall_mem_singleton.2 rfl)
  | @cleanUp file reply =>
      apply carriesOut_unlink
      intro worked
      cases reply with
      | ok => exact .inl rfl
      | error => contradiction

/-! ## Whole scenarios -/

def reportedOwner (asked : List Asked) : Owner :=
  match asked[2]?.bind Asked.metadata? with
  | some metadata => ⟨metadata.uid, metadata.gid⟩
  | none => ⟨0, 0⟩

theorem program_of_not_readsOwner {trigger : Trigger} (plain : ¬ readsOwner trigger)
    (path : Role → Path) (first second : Owner) :
    program trigger path first = program trigger path second := by
  cases trigger <;> first | rfl | exact absurd rfl plain

/-- Every run makes a beginning of the program, with the owner that was asked for. -/
theorem Exercised.begins {trigger : Trigger} {base : Path} {privileges : Privileges}
    {result : Except Interrupt Unit} {asked : List Asked}
    (exercised : Exercised trigger base privileges result asked) :
    Begins (program trigger (rolePath base trigger) (reportedOwner asked)) (mutations asked) := by
  cases exercised with
  | unresolved resolved => exact .of_still resolved.still
  | ownerless resolved =>
      exact .of_still (resolved.still_asking (.inr ⟨_, rfl⟩))
  | @steps snapshot owner _ before asking more resolved known inTurn asks =>
      have stepwise := (carriesOut_of_inTurn inTurn fun _ _ _ _ done => done.carriesOut).begins
      rw [← program_eq_planned] at stepwise
      have still := resolved.still_asking (known.imp_right fun ⟨reply, same, _⟩ => ⟨reply, same⟩)
      rw [Asked.mutations_append_of_still still]
      rcases known with rfl | ⟨reply, rfl, found, _⟩
      · rw [program_of_not_readsOwner (fun reads => asks reads rfl) _ _ owner]
        exact stepwise
      · have ⟨metadata, reported, same⟩ := owned_eq_ok_iff.1 found
        rw [same] at stepwise
        rw [reported]
        cases resolved with
        | confirmed => exact stepwise

end CopyUp.Scenario
