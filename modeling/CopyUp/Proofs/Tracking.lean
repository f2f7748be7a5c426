import CopyUp.Proofs.Course
import CopyUp.Proofs.Volume

/-!
# Scenarios over a volume

A scenario over a volume that works is followed step by step. Which of its names stand for the
fixture's object is known beforehand, so every change and every question is answered as expected,
unless the object was renumbered; then either the step shows nothing of it, or it ends the scenario
with the right verdict.
-/

namespace CopyUp

/-! ## Courses of a volume -/

structure Volume.Alike {Object : Type} (before after : Volume Object) : Prop where
  names : after.names = before.names
  handles : after.handles = before.handles

namespace Volume.Alike

variable {Object : Type} {before between after : Volume Object}

theorem refl (volume : Volume Object) : volume.Alike volume := ⟨rfl, rfl⟩

theorem trans (first : before.Alike between) (second : between.Alike after) :
    before.Alike after :=
  ⟨second.names.trans first.names, second.handles.trans first.handles⟩

end Volume.Alike

inductive Follows {Object : Type} : Volume Object → List Asked → Volume Object → Prop
  | nil {volume : Volume Object} : Follows volume [] volume
  | cons {before between after : Volume Object} {one : Asked} {rest : List Asked}
      (answers : Answers before one.exchange between) (later : Follows between rest after) :
      Follows before (one :: rest) after

/-- The calls are answered by a volume that may renumber an object with any change. -/
inductive Evolves {Object : Type} [DecidableEq Object] (object : Object) (drifted : Identity) :
    Volume Object → List Asked → Volume Object → Prop
  | nil {volume : Volume Object} : Evolves object drifted volume [] volume
  | cons {before between after : Volume Object} {one : Asked} {rest : List Asked}
      (answers : Answers before one.exchange between)
      (later : Evolves object drifted between rest after) :
      Evolves object drifted before (one :: rest) after
  | renumbers {before between after : Volume Object} {one : Asked} {rest : List Asked}
      (change : one.purpose = .change) (answers : Answers before one.exchange between)
      (later : Evolves object drifted (between.renumber object drifted) rest after) :
      Evolves object drifted before (one :: rest) after

theorem Follows.number_eq {Object : Type} {before after : Volume Object} {asked : List Asked}
    (follows : Follows before asked after) : after.number = before.number := by
  induction follows with
  | nil => rfl
  | cons answers _ ih => exact ih.trans answers.number_eq

theorem Follows.append {Object : Type} {before after : Volume Object} {first second : List Asked}
    (follows : Follows before (first ++ second) after) :
    ∃ between, Follows before first between ∧ Follows between second after := by
  induction first generalizing before with
  | nil => exact ⟨before, .nil, follows⟩
  | cons one rest ih =>
      cases follows with
      | cons answers later =>
          obtain ⟨between, left, right⟩ := ih later
          exact ⟨between, .cons answers left, right⟩

namespace Evolves

variable {Object : Type} [DecidableEq Object] {object : Object} {drifted : Identity}
  {before between after : Volume Object} {one : Asked} {first second : List Asked}

theorem of_follows (follows : Follows before first after) :
    Evolves object drifted before first after := by
  induction follows with
  | nil => exact .nil
  | cons answers _ ih => exact .cons answers ih

theorem trans (left : Evolves object drifted before first between)
    (right : Evolves object drifted between second after) :
    Evolves object drifted before (first ++ second) after := by
  induction left with
  | nil => exact right
  | cons answers _ ih => exact .cons answers (ih right)
  | renumbers change answers _ ih => exact .renumbers change answers (ih right)

theorem append (evolves : Evolves object drifted before (first ++ second) after) :
    ∃ between, Evolves object drifted before first between ∧
      Evolves object drifted between second after := by
  induction first generalizing before with
  | nil => exact ⟨before, .nil, evolves⟩
  | cons one rest ih =>
      cases evolves with
      | cons answers later =>
          obtain ⟨between, left, right⟩ := ih later
          exact ⟨between, .cons answers left, right⟩
      | renumbers change answers later =>
          obtain ⟨between, left, right⟩ := ih later
          exact ⟨between, .renumbers change answers left, right⟩

theorem single (evolves : Evolves object drifted before [one] after) :
    ∃ between, Answers before one.exchange between ∧ between.Alike after := by
  cases evolves with
  | cons answers later =>
      cases later
      exact ⟨_, answers, .refl _⟩
  | renumbers _ answers later =>
      cases later
      exact ⟨_, answers, rfl, rfl⟩

theorem cons_of_plain (evolves : Evolves object drifted before (one :: second) after)
    (plain : one.purpose ≠ .change) :
    ∃ between, Answers before one.exchange between ∧
      Evolves object drifted between second after := by
  cases evolves with
  | cons answers later => exact ⟨_, answers, later⟩
  | renumbers change => exact absurd change plain

theorem number_cases {expected : Identity}
    (evolves : Evolves object drifted before first after)
    (number : before.number object = expected ∨ before.number object = drifted) :
    after.number object = expected ∨ after.number object = drifted := by
  induction evolves with
  | nil => exact number
  | cons answers _ ih =>
      rw [← answers.number_eq] at number
      exact ih number
  | renumbers _ _ _ ih => exact ih (.inr (by simp))

/-- Nothing is interrupted, so a call is made once. -/
theorem once_of_answered {purpose : Purpose} {call : Call} {reply : Except Errno call.Reply}
    (evolves : Evolves object drifted before first after)
    (answered : Answered purpose call reply first) : first = [⟨purpose, ⟨call, reply⟩⟩] := by
  cases answered with
  | once => rfl
  | again =>
      cases evolves with
      | cons answers => exact absurd answers Answers.not_eintr
      | renumbers _ answers => exact absurd answers Answers.not_eintr

end Evolves

/-! ## Changes -/

section Changes

variable {Object : Type} [DecidableEq Object] {object : Object} {drifted : Identity}
  {before after : Volume Object} {fd : Descriptor} {asked : List Asked}

theorem FileSystem.Offered.tracked {bytes : Bytes} {place : Placement} {reply : Except Errno Nat}
    (offered : Offered .change fd bytes place reply asked)
    (evolves : Evolves object drifted before asked after) :
    before.Alike after ∧ ∃ count, reply = .ok count ∧ 0 < count := by
  cases offered with
  | next answered =>
      cases evolves.once_of_answered answered
      obtain ⟨between, answers, alike⟩ := evolves.single
      obtain ⟨rfl, taken⟩ := Answers.write_ok answers
      exact ⟨alike, taken⟩
  | «at» answered =>
      cases evolves.once_of_answered answered
      obtain ⟨between, answers, alike⟩ := evolves.single
      obtain ⟨rfl, taken⟩ := Answers.pwrite_ok answers
      exact ⟨alike, taken⟩

theorem FileSystem.Written.tracked {place : Placement} {bytes : Bytes}
    {result : Except IoError Unit} (written : Written .change fd place bytes result asked)
    (evolves : Evolves object drifted before asked after) :
    result = .ok () ∧ before.Alike after := by
  induction written generalizing before with
  | done =>
      cases evolves
      exact ⟨rfl, .refl _⟩
  | refused _ offered =>
      obtain ⟨_, count, impossible, _⟩ := offered.tracked evolves
      contradiction
  | stuck _ offered =>
      obtain ⟨_, count, same, positive⟩ := offered.tracked evolves
      cases same
      contradiction
  | took _ _ offered _ ih =>
      obtain ⟨between, first, later⟩ := evolves.append
      obtain ⟨rfl, alike⟩ := ih later
      exact ⟨rfl, (offered.tracked first).1.trans alike⟩

namespace Scenario

theorem OpenChange.alteredThrough?_call {owner : Owner} {change : OpenChange} {call : Call}
    (made : change.call? owner fd = some call) : call.alteredThrough? = some fd := by
  cases change <;> cases made <;> rfl

theorem OpenChange.Applied.tracked {owner : Owner} {change : OpenChange}
    {result : Except IoError Unit} (applied : change.Applied owner fd result asked)
    (evolves : Evolves object drifted before asked after) :
    result = .ok () ∧ before.Alike after := by
  cases applied with
  | wrote written | overwrote written => exact written.tracked evolves
  | called made answered =>
      cases evolves.once_of_answered answered
      obtain ⟨between, answers, alike⟩ := evolves.single
      obtain ⟨rfl, value, rfl⟩ :=
        Answers.alteredThrough_ok answers (OpenChange.alteredThrough?_call made)
      exact ⟨rfl, alike⟩

/-! ## Looks through open files -/

/-- The scenario failed because it was told the new number instead of the first one. -/
def Detected (expected drifted : Identity) (result : Except Interrupt Unit) : Prop :=
  ∃ operation, result = .error (.fail (.identityChanged operation expected drifted))

/-- One of two numbers is observed: the expected one, or the one that is to be detected. -/
theorem compared_cases {snapshot : Snapshot} {observed : Identity} (operation : String)
    (either : observed = snapshot.expected ∨ observed = drifted) :
    (snapshot.compared observed operation = .ok () ∧ observed = snapshot.expected) ∨
      snapshot.compared observed operation =
        .error (.identityChanged operation snapshot.expected drifted) := by
  unfold Snapshot.compared
  by_cases same : observed = snapshot.expected
  · exact .inl ⟨if_pos same, same⟩
  · rw [if_neg same, either.resolve_left same]
    exact .inr rfl

variable {scene : Scene} {opened : Identity}

theorem OpenPerformed.tracked {step : OpenStep} {result : Except Interrupt Unit}
    (performed : OpenPerformed scene fd step result asked)
    (evolves : Evolves object drifted before asked after)
    (held : before.handles fd = some ⟨object, opened⟩)
    (kept : opened = scene.snapshot.expected ∨ opened = drifted)
    (number : before.number object = scene.snapshot.expected ∨ before.number object = drifted) :
    Detected scene.snapshot.expected drifted result ∨
      (result = .ok () ∧ before.Alike after) := by
  cases performed with
  | change applied =>
      obtain ⟨rfl, alike⟩ := applied.tracked evolves
      exact .inr ⟨rfl, alike⟩
  | @stable operation reply =>
      obtain ⟨between, answers, alike⟩ := evolves.single
      obtain ⟨rfl, metadata, rfl, reports⟩ := Answers.fstat_of_held answers held
      have either : metadata.identity = scene.snapshot.expected ∨ metadata.identity = drifted := by
        rcases reports with same | same
        · exact same ▸ kept
        · exact same ▸ number
      rcases compared_cases operation either with ⟨fine, _⟩ | wrong
      · exact .inr ⟨by simp only [Snapshot.handled, fine]; rfl, alike⟩
      · exact .inl ⟨operation, by simp only [Snapshot.handled, wrong]; rfl⟩

/-- Whatever is done through an open file, it works or it ends the scenario with the right
verdict. -/
theorem tracked_of_opened {steps : List OpenStep} {result : Except Interrupt Unit}
    (inTurn : InTurn (OpenPerformed scene fd) steps result asked)
    (evolves : Evolves object drifted before asked after)
    (held : before.handles fd = some ⟨object, opened⟩)
    (kept : opened = scene.snapshot.expected ∨ opened = drifted)
    (number : before.number object = scene.snapshot.expected ∨ before.number object = drifted) :
    Detected scene.snapshot.expected drifted result ∨
      (result = .ok () ∧ before.Alike after) := by
  induction inTurn generalizing before with
  | done =>
      cases evolves
      exact .inr ⟨rfl, .refl _⟩
  | stops failed =>
      rcases failed.tracked evolves held kept number with detected | ⟨impossible, _⟩
      · exact .inl detected
      · contradiction
  | goes worked _ ih =>
      obtain ⟨between, first, later⟩ := evolves.append
      rcases worked.tracked first held kept number with ⟨_, impossible⟩ | ⟨_, alike⟩
      · contradiction
      · have onward := ih later (by rw [alike.handles]; exact held) (first.number_cases number)
        rcases onward with detected | ⟨rfl, further⟩
        · exact .inl detected
        · exact .inr ⟨rfl, alike.trans further⟩

end Scenario

end Changes

end CopyUp
