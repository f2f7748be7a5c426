import CopyUp.Proofs.Restraint
import CopyUp.Proofs.Roster

/-!
# Replaying what moves names

Names stand for objects, and only a granted renaming, link or removal changes which. Replayed over
any names, the calls of a step move names at the very end of the step if it works and not at all
otherwise, so at any moment of a run the names are those that whole steps have left.
-/

namespace CopyUp

/-- The names that a call gives or takes away if it is granted. -/
def Call.rebinds : Call → List Path
  | rename old new => [old, new]
  | link _ new => [new]
  | unlink path => [path]
  | _ => []

theorem Call.rebinds_of_still {call : Call} (still : call.mutates = false) : call.rebinds = [] := by
  cases call <;> first | rfl | contradiction

theorem Call.rebinds_of_descriptor? {call : Call} {fd : Descriptor}
    (works : call.descriptor? = some fd) : call.rebinds = [] := by
  cases call <;> first | rfl | contradiction

variable {Object : Type} {names : Path → Option Object} {name : Path}

namespace Asked

/-- The names after a call. Renaming takes an object from one name to another, whatever that stood
for; a link gives it one more name, and a removal takes one away. -/
def rebind (names : Path → Option Object) (one : Asked) : Path → Option Object :=
  match one.exchange with
  | ⟨.rename old new, .ok _⟩ => Function.update (Function.update names old none) new (names old)
  | ⟨.link existing new, .ok _⟩ => Function.update names new (names existing)
  | ⟨.unlink path, .ok _⟩ => Function.update names path none
  | _ => names

def replay (names : Path → Option Object) (asked : List Asked) : Path → Option Object :=
  asked.foldl rebind names

def Moves (one : Asked) : Prop := one.errno? = none ∧ one.call.rebinds ≠ []

variable {one : Asked} {asked first second : List Asked}

/-! ## What a replay leaves alone -/

theorem rebind_of_not_mem (other : name ∉ one.call.rebinds) :
    one.rebind names name = names name := by
  obtain ⟨purpose, call, reply⟩ := one
  cases call <;> try rfl
  all_goals cases reply with
    | error => rfl
    | ok value =>
        simp only [Asked.call, Call.rebinds, List.mem_cons, List.not_mem_nil, or_false,
          not_or] at other
        simp [rebind, other]

theorem rebind_of_not_moves (still : ¬ one.Moves) : one.rebind names = names := by
  by_cases named : one.call.rebinds = []
  · funext name
    exact rebind_of_not_mem (by simp [named])
  · obtain ⟨purpose, call, reply⟩ := one
    cases reply with
    | ok => exact absurd ⟨rfl, named⟩ still
    | error => cases call <;> rfl

@[simp] theorem replay_nil : replay names [] = names := rfl

theorem replay_append : replay names (first ++ second) = replay (replay names first) second :=
  List.foldl_append

theorem replay_of_not_mem (others : ∀ one ∈ asked, name ∉ one.call.rebinds) :
    replay names asked name = names name := by
  induction asked generalizing names with
  | nil => rfl
  | cons one rest ih =>
      have ⟨now, later⟩ := List.forall_mem_cons.1 others
      exact (ih later).trans (rebind_of_not_mem now)

theorem replay_of_not_moves (still : ∀ one ∈ asked, ¬ one.Moves) : replay names asked = names := by
  induction asked with
  | nil => rfl
  | cons one rest ih =>
      have ⟨now, later⟩ := List.forall_mem_cons.1 still
      show replay (one.rebind names) rest = names
      rw [rebind_of_not_moves now, ih later]

theorem not_moves_of_still (still : one.call.mutates = false) : ¬ one.Moves :=
  fun moves => moves.2 (Call.rebinds_of_still still)

theorem replay_of_still (still : ∀ one ∈ asked, one.call.mutates = false) :
    replay names asked = names :=
  replay_of_not_moves fun one member => not_moves_of_still (still one member)

end Asked

open Asked (replay)

namespace Scenario

variable {scene : Scene} {result : Except Interrupt Unit} {asked : List Asked}

/-! ## Steps -/

def PathChange.rebinds (file : Role) : PathChange → List Role
  | rename target => [file, target]
  | link target => [target]
  | unlink => [file]
  | _ => []

def Step.rebinds : Step → List Role
  | removeStale file | cleanUp file => [file]
  | .change made file => made.rebinds file
  | .check .. | opened .. => []

theorem PathChange.rebinds_call (path : Role → Path) (owner : Owner) (file : Role)
    (change : PathChange) :
    (change.call path owner file).rebinds = (change.rebinds file).map path := by
  cases change <;> rfl

theorem Performed.rebinds {step : Step} (performed : Performed scene step result asked) :
    ∀ one ∈ asked, one.call.rebinds = step.rebinds.map scene.path := by
  cases performed with
  | removeStale | cleanUp => exact List.forall_mem_singleton.2 rfl
  | change answered =>
      intro one member
      rw [(answered.same member).2]
      exact PathChange.rebinds_call ..
  | check checked => exact fun one member => Call.rebinds_of_still (checked.still one member).2
  | notOpened answered =>
      exact fun one member => Call.rebinds_of_still (still_of_opening answered one member)
  | opened answered inTurn =>
      have used := inTurn.forall_mem fun _ _ _ _ done => done.keeps_open
      refine List.forall_mem_append.2 ⟨List.forall_mem_append.2 ⟨?_, ?_⟩, ?_⟩
      · exact fun one member => Call.rebinds_of_still (still_of_opening answered one member)
      · exact fun one member => Call.rebinds_of_descriptor? (used one member).1
      · exact List.forall_mem_singleton.2 rfl

/-- A step moves names with its last call, and has worked then. -/
theorem Performed.worked_of_moves {step : Step} (performed : Performed scene step result asked)
    {first rest : List Asked} {one : Asked} (split : asked = first ++ one :: rest)
    (moves : one.Moves) : rest = [] ∧ result = .ok () := by
  have member : one ∈ asked := by simp [split]
  have named := performed.rebinds one member
  cases performed with
  | @removeStale file reply =>
      obtain ⟨_, rfl, rfl⟩ := split_singleton split
      cases reply with
      | ok => exact ⟨rfl, rfl⟩
      | error => exact absurd moves.1 nofun
  | @change made file reply _ answered =>
      obtain ⟨interrupted, rfl, alike⟩ := answered.exists_eq_append
      rcases split_append split with ⟨between, rfl, last⟩ | ⟨between, earlier, _⟩
      · obtain ⟨rfl, rfl, rfl⟩ := split_singleton last
        cases reply with
        | ok => exact ⟨rfl, judged_eq_ok_iff.2 rfl⟩
        | error => exact absurd moves.1 nofun
      · rw [alike one (by simp [earlier])] at moves
        exact absurd moves.1 nofun
  | check | notOpened | opened => exact absurd named moves.2
  | @cleanUp file reply =>
      obtain ⟨_, rfl, rfl⟩ := split_singleton split
      cases reply with
      | ok => exact ⟨rfl, rfl⟩
      | error => exact absurd moves.1 nofun

/-! ## What is known of the names -/

variable {object : Object} {path : Role → Path} {roster : Roster}

/-- What a name stands for is as it is known to be. -/
def Standing.Allows (object : Object) : Standing → Option Object → Prop
  | present, named => named = some object
  | missing, named => named = none
  | unknown, _ => True

def Roster.Describes (roster : Roster) (object : Object) (path : Role → Path)
    (names : Path → Option Object) : Prop :=
  ∀ file, (roster file).Allows object (names (path file))

theorem Roster.Describes.put (describes : roster.Describes object path names)
    (distinct : Function.Injective path) {file : Role} {standing : Standing}
    {named : Option Object} (allows : standing.Allows object named) :
    (roster.put file standing).Describes object path
      (Function.update names (path file) named) := by
  intro other
  by_cases same : other = file
  · rw [same, Function.update_self, Roster.put, if_pos rfl]
    exact allows
  · rw [Function.update_of_ne fun alike => same (distinct alike), Roster.put, if_neg same]
    exact describes other

theorem Roster.describes_initial (named : names (path .fixture) = some object) :
    Roster.initial.Describes object path names
  | .fixture => named
  | .renamed | .hardlink | .secondHardlink => trivial

/-- What is known after a change that worked. -/
def PathChange.leaves (roster : Roster) (file : Role) : PathChange → Roster
  | rename target => (roster.put file .missing).put target (roster file)
  | link target => roster.put target (roster file)
  | unlink => roster.put file .missing
  | _ => roster

/-- What is known after a step that worked. Of a leftover nothing is, since it may have been said to
be missing when it was not. -/
def Step.leaves (roster : Roster) : Step → Roster
  | removeStale file => roster.put file .unknown
  | .change made file => made.leaves roster file
  | cleanUp file => roster.put file .missing
  | .check .. | opened .. => roster

theorem PathChange.describes_leaves {change : PathChange} {file : Role} {owner : Owner}
    {value : (change.call path owner file).Reply} {purpose : Purpose}
    (describes : roster.Describes object path names) (distinct : Function.Injective path)
    (answered : Answered purpose (change.call path owner file) (.ok value) asked) :
    (change.leaves roster file).Describes object path (replay names asked) := by
  have still : change.rebinds file = [] → replay names asked = names := by
    intro none
    refine Asked.replay_of_not_moves fun one member moves => moves.2 ?_
    rw [(answered.same member).2, rebinds_call, none, List.map_nil]
  cases change with
  | rename target =>
      rw [answered.eq_of_not_restarts nofun]
      have vacated : (roster.put file .missing).Describes object path
          (Function.update names (path file) none) := describes.put distinct rfl
      exact vacated.put distinct (describes file)
  | link target =>
      rw [answered.eq_of_not_restarts nofun]
      exact describes.put distinct (describes file)
  | unlink =>
      rw [answered.eq_of_not_restarts nofun]
      exact describes.put distinct rfl
  | _ =>
      rw [still rfl]
      exact describes

theorem Performed.describes_leaves {step : Step} (performed : Performed scene step (.ok ()) asked)
    (describes : roster.Describes object scene.path names) :
    (step.leaves roster).Describes object scene.path (replay names asked) := by
  have still : step.rebinds = [] → replay names asked = names := by
    intro none
    refine Asked.replay_of_not_moves fun one member moves => moves.2 ?_
    rw [performed.rebinds one member, none, List.map_nil]
  generalize same : (Except.ok () : Except Interrupt Unit) = result at performed
  cases performed with
  | @removeStale file reply =>
      cases reply with
      | ok => exact describes.put scene.path_injective trivial
      | error =>
          have kept : (roster.put file .unknown).Describes object scene.path
              (Function.update names (scene.path file) (names (scene.path file))) :=
            describes.put scene.path_injective trivial
          rw [Function.update_eq_self] at kept
          exact kept
  | @change made file reply _ answered =>
      cases reply with
      | ok => exact PathChange.describes_leaves describes scene.path_injective answered
      | error => exact absurd (judged_eq_ok_iff.1 same.symm) nofun
  | check | notOpened | opened =>
      rw [still rfl]
      exact describes
  | @cleanUp file reply =>
      cases reply with
      | ok => exact describes.put scene.path_injective rfl
      | error => contradiction

/-! ## Runs -/

theorem describes_of_inTurn {steps : List Step}
    (inTurn : InTurn (Performed scene) steps result asked) (worked : result = .ok ())
    (describes : roster.Describes object scene.path names) :
    (steps.foldl Step.leaves roster).Describes object scene.path (replay names asked) := by
  induction inTurn generalizing names roster with
  | done => exact describes
  | stops => contradiction
  | goes now _ ih =>
      rw [Asked.replay_append]
      exact ih worked (now.describes_leaves describes)

/-- At any moment before a run has worked the names are those that some of its steps, but not all,
have left. -/
theorem exists_left_of_inTurn {steps : List Step} {before after : List Asked}
    (inTurn : InTurn (Performed scene) steps result asked) (split : asked = before ++ after)
    (unfinished : after = [] → result ≠ .ok ()) :
    ∃ done rest left, rest ≠ [] ∧ steps = done ++ rest ∧
      InTurn (Performed scene) done (.ok ()) left ∧
      ∀ names : Path → Option Object, replay names before = replay names left := by
  induction inTurn generalizing before with
  | done =>
      have nothing : after = [] := (List.append_eq_nil_iff.1 split.symm).2
      exact absurd rfl (unfinished nothing)
  | @stops item rest error asked failed =>
      refine ⟨[], item :: rest, [], nofun, rfl, .done, fun names => ?_⟩
      refine Asked.replay_of_not_moves fun one member moves => ?_
      obtain ⟨first, last, rfl⟩ := List.append_of_mem member
      rw [List.append_assoc] at split
      exact absurd (failed.worked_of_moves split moves).2 nofun
  | @goes item rest result asked more worked later ih =>
      have onward : ∀ between, before = asked ++ between → more = between ++ after →
          ∃ done rest' left, rest' ≠ [] ∧ item :: rest = done ++ rest' ∧
            InTurn (Performed scene) done (.ok ()) left ∧
            ∀ names : Path → Option Object, replay names before = replay names left := by
        rintro between rfl others
        obtain ⟨done, left, calls, some, same, inTurn, alike⟩ := ih others unfinished
        refine ⟨item :: done, left, asked ++ calls, some, by rw [same]; rfl, .goes worked inTurn,
          fun names => ?_⟩
        rw [Asked.replay_append, Asked.replay_append, alike]
      rcases List.append_eq_append_iff.1 split with
        ⟨between, same, others⟩ | ⟨between, same, others⟩
      · exact onward between same others
      · cases between with
        | nil => exact onward [] (by simpa using same.symm) (by simpa using others.symm)
        | cons next behind =>
            -- the step is not over, so it has moved nothing yet
            refine ⟨[], item :: rest, [], nofun, rfl, .done, fun names => ?_⟩
            refine Asked.replay_of_not_moves fun one member moves => ?_
            obtain ⟨first, last, rfl⟩ := List.append_of_mem member
            rw [List.append_assoc] at same
            simpa using (worked.worked_of_moves same moves).1

end Scenario

end CopyUp
