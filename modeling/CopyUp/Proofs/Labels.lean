import CopyUp.Proofs.Completion
import CopyUp.Proofs.Passing

/-!
# Labels

A failure names the call that it is about, or the change that a check follows, in words that stand
beside the call in the list of steps. The words are right: the label of a call starts with the name
of the call, and the label of a look at the identity starts with the name of the latest change that
was made before it.
-/

namespace CopyUp

/-! ## The latest change -/

namespace Asked

/-- The latest call that changed something. -/
def latestMutation? (asked : List Asked) : Option Call :=
  ((asked.map call).filter Call.mutates).getLast?

def latestName? (asked : List Asked) : Option String := (latestMutation? asked).map Call.name

theorem latestName?_append (first second : List Asked) :
    latestName? (first ++ second) = (latestName? second).or (latestName? first) := by
  unfold latestName? latestMutation?
  rw [List.map_append, List.filter_append, List.getLast?_append]
  cases ((second.map call).filter Call.mutates).getLast? <;> rfl

/-- Where nothing is changed the latest change stays what it was. -/
theorem latestName?_of_still {asked : List Asked}
    (still : ∀ one ∈ asked, one.call.mutates = false) : latestName? asked = none := by
  have none : (asked.map call).filter Call.mutates = [] := by
    rw [List.filter_eq_nil_iff]
    intro made member
    obtain ⟨one, among, rfl⟩ := List.mem_map.1 member
    simp [still one among]
  unfold latestName? latestMutation?
  rw [none]
  rfl

/-- Changes of one name leave this name behind. -/
theorem latestName?_of_name {asked : List Asked} {name : String} (some : asked ≠ [])
    (all : ∀ one ∈ asked, one.call.mutates = true ∧ one.call.name = name) :
    latestName? asked = .some name := by
  have kept : (asked.map call).filter Call.mutates = asked.map call := by
    rw [List.filter_eq_self]
    intro made member
    obtain ⟨one, among, rfl⟩ := List.mem_map.1 member
    exact (all one among).1
  unfold latestName? latestMutation?
  rw [kept, List.getLast?_map, List.getLast?_eq_some_getLast some]
  have last := (all _ (List.getLast_mem some)).2
  simp [last]

end Asked

/-! ## The words of a label -/

def firstWord (label : String) : String :=
  .ofList (label.toList.takeWhile (· ≠ ' '))

/-- A label up to its first blank or parenthesis. -/
def callWord (label : String) : String :=
  .ofList (label.toList.takeWhile fun letter => letter ≠ '(' ∧ letter ≠ ' ')

namespace FileSystem

def Placement.operation : Placement → String
  | next => "write"
  | .at _ => "pwrite"

theorem Placement.operation_advance (count : Nat) (place : Placement) :
    (place.advance count).operation = place.operation := by
  cases place <;> rfl

theorem Offered.name_eq {purpose : Purpose} {fd : Descriptor} {bytes : Bytes} {place : Placement}
    {reply : Except Errno Nat} {asked : List Asked}
    (offered : Offered purpose fd bytes place reply asked) {one : Asked} (member : one ∈ asked) :
    one.call.mutates = true ∧ one.call.name = place.operation := by
  cases offered with
  | next answered | «at» answered =>
      rw [(answered.same member).2]
      exact ⟨rfl, rfl⟩

theorem Written.name_eq {purpose : Purpose} {fd : Descriptor} {place : Placement} {bytes : Bytes}
    {result : Except IoError Unit} {asked : List Asked}
    (written : Written purpose fd place bytes result asked) :
    ∀ one ∈ asked, one.call.mutates = true ∧ one.call.name = place.operation := by
  induction written with
  | done => simp
  | refused _ offered | stuck _ offered => exact fun one member => offered.name_eq member
  | took _ _ offered _ ih =>
      rw [Placement.operation_advance] at ih
      exact List.forall_mem_append.2 ⟨fun one member => offered.name_eq member, ih⟩

end FileSystem

namespace Scenario

/-! ## The labels of calls -/

theorem PathChange.name_call (path : Role → Path) (owner : Owner) (file : Role)
    (change : PathChange) : (change.call path owner file).name = change.operation := by
  cases change <;> rfl

theorem PathChange.callWord_operation (change : PathChange) :
    callWord change.operation = change.operation := by
  cases change <;> simp only [operation] <;> decide

theorem OpenChange.callWord_operation (change : OpenChange) :
    callWord change.operation = change.operation := by
  cases change <;> simp only [operation] <;> decide

theorem OpenChange.name_of_call? {owner : Owner} {fd : Descriptor} {change : OpenChange}
    {call : Call} (made : change.call? owner fd = some call) :
    call.mutates = true ∧ call.name = change.operation := by
  cases change <;> cases made <;> exact ⟨rfl, rfl⟩

theorem OpenChange.Applied.name_eq {owner : Owner} {fd : Descriptor} {change : OpenChange}
    {result : Except IoError Unit} {asked : List Asked}
    (applied : change.Applied owner fd result asked) :
    ∀ one ∈ asked, one.call.mutates = true ∧ one.call.name = change.operation := by
  cases applied with
  | wrote written | overwrote written => exact written.name_eq
  | called made answered =>
      intro one member
      rw [(answered.same member).2]
      exact OpenChange.name_of_call? made

theorem Access.callWord_operation (access : Access) : callWord access.operation = "open" := by
  cases access <;> decide

/-! ## The latest change, step by step -/

def OpenStep.latest (name : Option String) : OpenStep → Option String
  | .change made => if made.calls then some made.operation else name
  | .stable _ => name

def Step.latest (name : Option String) : Step → Option String
  | .removeStale _ | .cleanUp _ => some "unlink"
  | .change made _ => some made.operation
  | .check .. => name
  | .opened _ steps => steps.foldl OpenStep.latest name

theorem OpenPerformed.latestName? {scene : Scene} {fd : Descriptor} {step : OpenStep}
    {asked : List Asked} (performed : OpenPerformed scene fd step (.ok ()) asked)
    (name : Option String) : (Asked.latestName? asked).or name = step.latest name := by
  cases step with
  | change made =>
      have applied := performed.change_ok
      have names := applied.name_eq
      rcases applied.finishes with ⟨none, rfl⟩ | ⟨calls, last, finishes, _⟩
      · simp only [OpenStep.latest, none]
        rfl
      · obtain ⟨earlier, rfl, _⟩ := finishes.idleBefore
        rw [Asked.latestName?_of_name (by simp) names, OpenStep.latest, if_pos calls]
        rfl
  | stable after =>
      obtain ⟨metadata, _, rfl⟩ := performed.stable_ok
      rfl

theorem InTurn.latestName? {α : Type} {does : α → Except Interrupt Unit → List Asked → Prop}
    {latest : Option String → α → Option String}
    (each : ∀ item asked name, does item (.ok ()) asked →
      (Asked.latestName? asked).or name = latest name item)
    {items : List α} {result : Except Interrupt Unit} {asked : List Asked}
    (inTurn : InTurn does items result asked) (worked : result = .ok ()) (name : Option String) :
    (Asked.latestName? asked).or name = items.foldl latest name := by
  induction inTurn generalizing name with
  | done => rfl
  | stops => contradiction
  | goes performed _ ih =>
      rw [Asked.latestName?_append, Option.or_assoc, each _ _ name performed]
      exact ih worked _

theorem Performed.latestName? {scene : Scene} {step : Step} {asked : List Asked}
    (performed : Performed scene step (.ok ()) asked) (name : Option String) :
    (Asked.latestName? asked).or name = step.latest name := by
  cases step with
  | removeStale file | cleanUp file =>
      generalize (Except.ok () : Except Interrupt Unit) = result at performed
      cases performed
      rfl
  | change made file =>
      obtain ⟨value, answered⟩ := performed.change_ok
      have names : ∀ one ∈ asked, one.call.mutates = true ∧ one.call.name = made.operation := by
        intro one member
        rw [(answered.same member).2]
        exact ⟨made.mutates_call .., made.name_call ..⟩
      obtain ⟨earlier, rfl, _⟩ := answered.exists_eq_append
      rw [Asked.latestName?_of_name (by simp) names]
      rfl
  | check =>
      have still := fun one member => (performed.check_ok.still one member).2
      rw [Asked.latestName?_of_still still]
      rfl
  | opened access steps =>
      obtain ⟨fd, opening, used, closed, answered, inTurn, rfl⟩ := performed.opened_ok
      have opens : ∀ one ∈ opening, one.call.mutates = false := by
        intro one member
        rw [(answered.same member).2]
        rfl
      have within := InTurn.latestName? (fun _ _ name done => OpenPerformed.latestName? done name)
        inTurn rfl name
      rw [Asked.latestName?_append, Asked.latestName?_append, Asked.latestName?_of_still opens,
        Option.or_none]
      exact within

/-! ## The labels of looks -/

def OpenStep.labelled (name : Option String) : OpenStep → Bool
  | .stable after => name = some (firstWord after)
  | .change _ => true

/-- Each item is labelled, given the latest change before it. -/
def labelledFrom {α : Type} (labelled : Option String → α → Bool)
    (latest : Option String → α → Option String) : Option String → List α → Bool
  | _, [] => true
  | name, item :: rest => labelled name item && labelledFrom labelled latest (latest name item) rest

def Step.labelled (name : Option String) : Step → Bool
  | .check .stable _ after | .check .stableLink _ after | .check .stableAll _ after =>
    name = some (firstWord after)
  | .opened _ steps => labelledFrom OpenStep.labelled OpenStep.latest name steps
  | _ => true

theorem labelled_steps (trigger : Trigger) :
    labelledFrom Step.labelled Step.latest none (steps trigger) := by
  cases trigger <;> decide

end Scenario

end CopyUp
