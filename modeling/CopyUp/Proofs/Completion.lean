import CopyUp.Proofs.Course
import CopyUp.Proofs.Purposes
import Mathlib.Algebra.GroupWithZero.Nat

/-!
# When changes complete

A change under test may take several calls: attempts that are interrupted, and writes that take only
a part of what they are offered. It completes with the last of them, and all other calls of a
scenario are idle in that they complete nothing and rename nothing.
-/

namespace CopyUp

namespace Asked

/-- The call completes a change under test: it is granted, and a write takes all it was offered. -/
def completes (one : Asked) : Bool :=
  one.purpose = .change && match one.exchange with
    | ⟨.write _ bytes, .ok count⟩ => count = bytes.length
    | ⟨.pwrite _ bytes _, .ok count⟩ => count = bytes.length
    | ⟨_, .ok _⟩ => true
    | ⟨_, .error _⟩ => false

def renamed (name : Path) (one : Asked) : Path :=
  match one.exchange with
  | ⟨.rename old new, .ok _⟩ => if old = name then new else name
  | _ => name

/-- The call completes no change and renames nothing. -/
def Idle (one : Asked) : Prop := one.completes = false ∧ ∀ name, one.renamed name = name

theorem renamed_of_not_rename {one : Asked} (other : ∀ old new, one.call ≠ .rename old new)
    (name : Path) : one.renamed name = name := by
  unfold renamed
  split
  · rename_i old new _ same
    exact absurd (congrArg Exchange.call same) (other old new)
  · rfl

theorem renamed_of_error (purpose : Purpose) (call : Call) (errno : Errno) (name : Path) :
    renamed name ⟨purpose, ⟨call, .error errno⟩⟩ = name := by
  cases call <;> rfl

theorem idle_of_purpose {one : Asked} (other : one.purpose ≠ .change)
    (keeps : ∀ old new, one.call ≠ .rename old new) : one.Idle :=
  ⟨by simp [completes, other], renamed_of_not_rename keeps⟩

theorem idle_of_still {one : Asked} (other : one.purpose ≠ .change)
    (still : one.call.mutates = false) : one.Idle :=
  idle_of_purpose other fun old new same => by
    rw [same] at still
    contradiction

end Asked

open Asked (Idle)

/-! ## The calls of a change -/

structure Finishes (asked : List Asked) (last : Asked) : Prop where
  idleBefore : ∃ earlier, asked = earlier ++ [last] ∧ ∀ one ∈ earlier, one.Idle
  completes : last.completes

theorem idle_of_interrupted {purpose : Purpose} {call : Call} {errno : Errno} :
    Idle ⟨purpose, ⟨call, .error errno⟩⟩ :=
  ⟨by cases call <;> simp [Asked.completes], Asked.renamed_of_error _ _ _⟩

theorem Answered.finishes {call : Call} {value : call.Reply} {asked : List Asked}
    (answered : Answered .change call (.ok value) asked)
    (completes : Asked.completes ⟨.change, ⟨call, .ok value⟩⟩) :
    Finishes asked ⟨.change, ⟨call, .ok value⟩⟩ := by
  obtain ⟨interrupted, rfl, alike⟩ := answered.exists_eq_append
  refine ⟨⟨interrupted, rfl, fun one member => ?_⟩, completes⟩
  rw [alike one member]
  exact idle_of_interrupted

/-- If the answer completes nothing the attempts before it do not either. -/
theorem Answered.idle {call : Call} {value : call.Reply} {asked : List Asked}
    (answered : Answered .change call (.ok value) asked)
    (unfinished : Idle ⟨.change, ⟨call, .ok value⟩⟩) : ∀ one ∈ asked, one.Idle := by
  intro one member
  obtain ⟨interrupted, rfl, alike⟩ := answered.exists_eq_append
  rcases List.mem_append.1 member with before | last
  · rw [alike one before]
    exact idle_of_interrupted
  · rw [List.mem_singleton.1 last]
    exact unfinished

namespace FileSystem

structure Completion (fd : Descriptor) (asked : List Asked) (last : Asked) : Prop
    extends Finishes asked last where
  descriptor : last.call.descriptor? = some fd
  keeps : ∀ name, last.renamed name = name
  other : ∀ fd key value, last.call ≠ .fsetxattr fd key value

/-- An offer that is taken whole completes the write, and all others are idle. -/
theorem Offered.completion {fd : Descriptor} {bytes : Bytes} {place : Placement} {count : Nat}
    {asked : List Asked} (offered : Offered .change fd bytes place (.ok count) asked) :
    (count = bytes.length ∧ ∃ last, Completion fd asked last) ∨
      (count < bytes.length ∧ ∀ one ∈ asked, one.Idle) := by
  have most := offered.le
  by_cases whole : count = bytes.length
  · refine .inl ⟨whole, ?_⟩
    cases offered with
    | next answered | «at» answered =>
        have finishes := answered.finishes (by simp [Asked.completes, whole])
        exact ⟨_, finishes, rfl, fun _ => rfl, by simp [Asked.call]⟩
  · refine .inr ⟨by omega, ?_⟩
    cases offered with
    | next answered | «at» answered =>
        exact answered.idle ⟨by simp [Asked.completes, whole], fun _ => rfl⟩

theorem Written.completion {fd : Descriptor} {place : Placement} {bytes : Bytes}
    {result : Except IoError Unit} {asked : List Asked}
    (written : Written .change fd place bytes result asked) (worked : result = .ok ())
    (some : bytes ≠ []) : ∃ last, Completion fd asked last := by
  induction written with
  | done => contradiction
  | refused | stuck => contradiction
  | @took place bytes count result first rest more positive offered later ih =>
      rcases offered.completion with ⟨whole, last, completion⟩ | ⟨less, idle⟩
      · have nothing : bytes.drop count = [] := by rw [whole, List.drop_length]
        rw [nothing] at later
        rw [later.of_nil.2, List.append_nil]
        exact ⟨last, completion⟩
      · have left : bytes.drop count ≠ [] := by
          rw [Ne, List.drop_eq_nil_iff]
          omega
        obtain ⟨last, completion⟩ := ih worked left
        obtain ⟨earlier, rfl, before⟩ := completion.idleBefore
        refine ⟨last, ⟨⟨first ++ earlier, by simp, ?_⟩, completion.completes⟩,
          completion.descriptor, completion.keeps, completion.other⟩
        exact List.forall_mem_append.2 ⟨idle, before⟩

end FileSystem

/-- Looking for the fixture changes nothing. -/
theorem Fixture.Resolved.still {base : Path} {trigger : Trigger}
    {result : Except Interrupt Snapshot} {asked : List Asked}
    (resolved : Resolved base trigger result asked) : ∀ one ∈ asked, one.call.mutates = false := by
  cases resolved <;> simp [Asked.call, Call.mutates]

/-- Nor does asking for its owner, where that is done. -/
theorem Fixture.Resolved.still_asking {base : Path} {trigger : Trigger}
    {result : Except Interrupt Snapshot} {asked asking : List Asked}
    (resolved : Resolved base trigger result asked)
    (asks : asking = [] ∨
      ∃ reply, asking = [⟨.owner, ⟨.stat (base.join trigger.fixture), reply⟩⟩]) :
    ∀ one ∈ asked ++ asking, one.call.mutates = false := by
  apply List.forall_mem_append.2 ⟨resolved.still, _⟩
  rcases asks with rfl | ⟨reply, rfl⟩
  · simp
  · exact List.forall_mem_singleton.2 rfl

namespace Scenario

/-- The one change that no look at the name follows. -/
def OpenChange.setsAttribute : OpenChange → Bool
  | fsetxattr .. => true
  | _ => false

/-- The change makes a call; to write nothing takes none. -/
def OpenChange.calls : OpenChange → Bool
  | write text | pwrite text _ => Bytes.ofText text ≠ []
  | _ => true

/-- A change through an open file is completed by its last call, if it makes any. -/
theorem OpenChange.Applied.finishes {owner : Owner} {fd : Descriptor} {change : OpenChange}
    {asked : List Asked} (applied : change.Applied owner fd (.ok ()) asked) :
    (change.calls = false ∧ asked = []) ∨ (change.calls = true ∧ ∃ last, Finishes asked last ∧
      last.call.descriptor? = some fd ∧ (∀ name, last.renamed name = name) ∧
        ((∀ fd key value, last.call ≠ .fsetxattr fd key value) ↔
          change.setsAttribute = false)) := by
  generalize same : (Except.ok () : Except IoError Unit) = result at applied
  cases applied with
  | @wrote text _ _ written | @overwrote text _ _ _ written =>
      by_cases some : Bytes.ofText text = []
      · rw [some] at written
        exact .inl ⟨by simp [calls, some], written.of_nil.2⟩
      · obtain ⟨last, completion⟩ := written.completion same.symm some
        have sets := completion.other
        exact .inr ⟨by simp [calls, some], last, completion.toFinishes, completion.descriptor,
          completion.keeps, by simp [setsAttribute, sets]⟩
  | @called _ call reply _ made answered =>
      cases reply with
      | error => contradiction
      | ok value =>
          refine .inr ⟨?_, ⟨.change, ⟨call, .ok value⟩⟩, answered.finishes ?_, ?_, ?_, ?_⟩
          all_goals cases change <;> cases made <;>
            simp [calls, Asked.completes, Call.ftruncateTo, Call.reserve, Asked.renamed, Asked.call,
              setsAttribute, Call.descriptor?]

theorem PathChange.descriptor?_call (path : Role → Path) (owner : Owner) (file : Role)
    (change : PathChange) : (change.call path owner file).descriptor? = none := by
  cases change <;> rfl

theorem PathChange.finishes {path : Role → Path} {owner : Owner} {file : Role}
    {change : PathChange} {value : (change.call path owner file).Reply} {asked : List Asked}
    (answered : Answered .change (change.call path owner file) (.ok value) asked) :
    Finishes asked ⟨.change, ⟨change.call path owner file, .ok value⟩⟩ :=
  answered.finishes (by cases change <;> rfl)

/-! ## The calls of other steps -/

theorem Checked.still {snapshot : Snapshot} {path : Path} {after : String} {check : Check}
    {result : Except Failure Unit} {asked : List Asked}
    (checked : Checked snapshot path after check result asked) :
    ∀ one ∈ asked, one.purpose ≠ .change ∧ one.call.mutates = false := by
  have opening : ∀ {reply : Except Errno Descriptor} {opening : List Asked},
      Answered .acquire (.openFile path Snapshot.handleFlags) reply opening →
        ∀ one ∈ opening, one.purpose ≠ .change ∧ one.call.mutates = false := by
    intro reply opening answered one member
    obtain ⟨purpose, call⟩ := answered.same member
    rw [purpose, call]
    exact ⟨by decide, rfl⟩
  cases checked with
  | stable | stableLink | notByPath | notByLink | absent | linkCount =>
      simp [Asked.call, Call.mutates]
  | notOpened _ _ answered =>
      simpa [Asked.call, Call.mutates] using opening answered
  | byHandle _ _ answered =>
      have before := opening answered
      simp only [List.cons_append, List.forall_mem_cons, List.forall_mem_append]
      simpa [Asked.call, Call.mutates] using before

theorem Checked.idle {snapshot : Snapshot} {path : Path} {after : String} {check : Check}
    {result : Except Failure Unit} {asked : List Asked}
    (checked : Checked snapshot path after check result asked) : ∀ one ∈ asked, one.Idle := by
  intro one member
  obtain ⟨purpose, still⟩ := checked.still one member
  exact Asked.idle_of_still purpose still

theorem idle_of_answered {purpose : Purpose} {call : Call} {reply : Except Errno call.Reply}
    {asked : List Asked} (answered : Answered purpose call reply asked)
    (other : purpose ≠ .change) (still : call.mutates = false) : ∀ one ∈ asked, one.Idle := by
  intro one member
  obtain ⟨rfl, rfl⟩ := answered.same member
  exact Asked.idle_of_still other still

def OpenStep.looks : OpenStep → Bool
  | stable _ => true
  | change _ => false

theorem looks_of_inTurn {scene : Scene} {fd : Descriptor} {steps : List OpenStep}
    {result : Except Interrupt Unit} {asked : List Asked}
    (inTurn : InTurn (OpenPerformed scene fd) steps result asked)
    (looks : steps.all OpenStep.looks) :
    ∀ one ∈ asked, ∃ reply, one = ⟨.identity, ⟨.fstat fd, reply⟩⟩ := by
  refine inTurn.forall_mem fun step member result asked performed => ?_
  have looking := List.all_eq_true.1 looks step member
  cases performed with
  | change => simp [OpenStep.looks] at looking
  | stable => simp

/-! ## How many changes are completed -/

/-- How many changes an open step applies: none if it writes nothing. -/
def OpenStep.applications : OpenStep → Nat
  | .change made => if made.calls then 1 else 0
  | .stable _ => 0

def Step.applications : Step → Nat
  | .change _ _ => 1
  | .opened _ steps => (steps.map OpenStep.applications).sum
  | _ => 0

def applications (trigger : Trigger) : Nat := ((steps trigger).map Step.applications).sum

theorem countP_of_idle {asked : List Asked} (idle : ∀ one ∈ asked, one.Idle) :
    asked.countP Asked.completes = 0 :=
  List.countP_eq_zero.2 fun one member => by simp [(idle one member).1]

theorem countP_of_finishes {asked : List Asked} {last : Asked} (finishes : Finishes asked last) :
    asked.countP Asked.completes = 1 := by
  obtain ⟨earlier, rfl, idle⟩ := finishes.idleBefore
  rw [List.countP_append, countP_of_idle idle, List.countP_singleton, if_pos finishes.completes]

theorem countP_of_inTurn {α : Type} {does : α → Except Interrupt Unit → List Asked → Prop}
    {count : α → Nat} (each : ∀ item asked, does item (.ok ()) asked →
      asked.countP Asked.completes = count item)
    {items : List α} {result : Except Interrupt Unit} {asked : List Asked}
    (inTurn : InTurn does items result asked) (worked : result = .ok ()) :
    asked.countP Asked.completes = (items.map count).sum := by
  induction inTurn with
  | done => rfl
  | stops => contradiction
  | goes performed _ ih =>
      rw [List.countP_append, each _ _ performed, ih worked, List.map_cons, List.sum_cons]

theorem OpenPerformed.countP {scene : Scene} {fd : Descriptor} {step : OpenStep}
    {asked : List Asked} (performed : OpenPerformed scene fd step (.ok ()) asked) :
    asked.countP Asked.completes = step.applications := by
  cases step with
  | change made =>
      rcases performed.change_ok.finishes with ⟨none, rfl⟩ | ⟨some, last, finishes, _⟩
      · simp [OpenStep.applications, none]
      · rw [countP_of_finishes finishes, OpenStep.applications, if_pos some]
  | stable after =>
      obtain ⟨metadata, _, rfl⟩ := performed.stable_ok
      rfl

theorem Performed.countP {scene : Scene} {step : Step} {asked : List Asked}
    (performed : Performed scene step (.ok ()) asked) :
    asked.countP Asked.completes = step.applications := by
  cases step with
  | removeStale file | cleanUp file =>
      generalize (Except.ok () : Except Interrupt Unit) = result at performed
      cases performed
      rfl
  | change change file =>
      obtain ⟨value, answered⟩ := performed.change_ok
      exact countP_of_finishes (PathChange.finishes answered)
  | check => exact countP_of_idle performed.check_ok.idle
  | opened access steps =>
      obtain ⟨fd, opening, used, closed, answered, inTurn, rfl⟩ := performed.opened_ok
      have opens := countP_of_idle (idle_of_answered answered (by decide) rfl)
      have within := countP_of_inTurn (fun _ _ => OpenPerformed.countP) inTurn rfl
      rw [List.countP_append, List.countP_append, opens, within, Nat.zero_add]
      rfl

theorem OpenPerformed.not_change {scene : Scene} {fd : Descriptor} {step : OpenStep}
    {result : Except Interrupt Unit} {asked : List Asked}
    (performed : OpenPerformed scene fd step result asked) (none : step.applications = 0) :
    ∀ one ∈ asked, one.purpose ≠ .change := by
  cases performed with
  | stable => simp
  | @change made _ _ applied =>
      cases applied with
      | @wrote text _ _ written | @overwrote text _ _ _ written =>
          have nothing : Bytes.ofText text = [] := by
            simpa [OpenStep.applications, OpenChange.calls] using none
          rw [nothing] at written
          rw [written.of_nil.2]
          simp
      | called asks =>
          have calls : made.calls = true := by cases made <;> first | rfl | contradiction
          simp [OpenStep.applications, calls] at none

theorem Performed.not_change {scene : Scene} {step : Step} {result : Except Interrupt Unit}
    {asked : List Asked} (performed : Performed scene step result asked)
    (none : step.applications = 0) : ∀ one ∈ asked, one.purpose ≠ .change := by
  cases performed with
  | removeStale | cleanUp => simp
  | change => contradiction
  | check checked => exact fun one member => (checked.still one member).1
  | notOpened answered =>
      intro one member
      rw [(answered.same member).1]
      decide
  | @opened _ _ _ _ _ opening _ answered inTurn =>
      have opens : ∀ one ∈ opening, one.purpose ≠ .change := fun one member => by
        rw [(answered.same member).1]
        decide
      have within := inTurn.forall_mem fun item member _ _ performed =>
        OpenPerformed.not_change performed
          (List.sum_eq_zero_iff_forall_eq_nat.1 none _ (List.mem_map_of_mem member))
      simpa [or_imp, forall_and] using ⟨opens, within⟩

end Scenario

end CopyUp
