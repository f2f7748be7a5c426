import CopyUp.Proofs.Scenes
import CopyUp.Proofs.Volume

/-!
# Rosters

Which of the names that a scenario uses stand for the fixture's object. A roster says so as far as
it is known before the scenario runs, each step changes it in a fixed way, and it agrees with the
volume that the steps are done on.
-/

namespace CopyUp.Scenario

/-- What is known about a name. -/
inductive Standing
  /-- It is a name of the fixture's object. -/
  | present
  | missing
  | unknown
  deriving DecidableEq, Repr

abbrev Roster := Role → Standing

def Role.all : List Role := [fixture, renamed, hardlink, secondHardlink]

namespace Roster

def initial : Roster
  | .fixture => .present
  | _ => .unknown

def put (roster : Roster) (file : Role) (standing : Standing) : Roster :=
  fun other => if other = file then standing else roster other

/-- The object has a name besides that of the file. -/
def another (roster : Roster) (file : Role) : Bool :=
  Role.all.any fun other => other ≠ file && roster other = .present

end Roster

def PathChange.next (roster : Roster) (file : Role) : PathChange → Option Roster
  | rename target =>
    if roster file = .present ∧ roster target = .missing then
      some ((roster.put file .missing).put target .present)
    else none
  | link target =>
    if roster file = .present ∧ roster target = .missing then some (roster.put target .present)
    else none
  | unlink => if roster file = .present then some (roster.put file .missing) else none
  | _ => if roster file = .present then some roster else none

/-- Whether what a check expects of the names is so. -/
def Check.expects (roster : Roster) (file : Role) : Check → Bool
  | absent => roster file = .missing
  | linkCount minimum => minimum ≤ 2 && roster file = .present && roster.another file
  | _ => roster file = .present

def Step.next (roster : Roster) : Step → Option Roster
  | removeStale file => if roster file = .unknown then some (roster.put file .missing) else none
  | .change made file => made.next roster file
  | .check asked file _ => if asked.expects roster file then some roster else none
  | opened _ _ => if roster .fixture = .present then some roster else none
  | cleanUp file => if roster file = .present then some (roster.put file .missing) else none

/-- All steps are possible, one after another. -/
def feasible : Roster → List Step → Bool
  | _, [] => true
  | roster, step :: rest =>
    match step.next roster with
    | some next => feasible next rest
    | none => false

theorem next_of_feasible {roster : Roster} {step : Step} {rest : List Step}
    (possible : feasible roster (step :: rest)) :
    ∃ following, step.next roster = some following ∧ feasible following rest := by
  unfold feasible at possible
  split at possible
  · exact ⟨_, ‹_›, possible⟩
  · contradiction

theorem feasible_steps (trigger : Trigger) : feasible .initial (steps trigger) := by
  cases trigger <;> decide

/-! ## Agreement with a volume -/

variable {Object : Type}

structure Agrees (volume : Volume Object) (object : Object) (path : Role → Path)
    (roster : Roster) : Prop where
  present : ∀ file, roster file = .present → volume.names (path file) = some object
  missing : ∀ file, roster file = .missing → volume.names (path file) = none

namespace Agrees

variable {volume : Volume Object} {object : Object} {path : Role → Path} {roster : Roster}

theorem congr {other : Volume Object} (agrees : Agrees volume object path roster)
    (same : other.names = volume.names) : Agrees other object path roster :=
  ⟨fun file known => same ▸ agrees.present file known,
    fun file known => same ▸ agrees.missing file known⟩

theorem initially (named : volume.names (path .fixture) = some object) :
    Agrees volume object path .initial where
  present file known := by
    cases file with
    | fixture => exact named
    | renamed | hardlink | secondHardlink => contradiction
  missing file known := by
    cases file <;> contradiction

theorem give (agrees : Agrees volume object path roster) (distinct : Function.Injective path)
    {file : Role} (plain : ¬ (path file).HasNul) :
    Agrees (volume.assign (path file) (some object)) object path (roster.put file .present) := by
  constructor <;> intro other known <;> by_cases same : other = file
  · rw [same, Volume.names_assign_self volume plain]
  · rw [Volume.names_assign_of_ne volume fun equal => same (distinct equal)]
    exact agrees.present other (by simpa [Roster.put, same] using known)
  · simp [Roster.put, same] at known
  · rw [Volume.names_assign_of_ne volume fun equal => same (distinct equal)]
    exact agrees.missing other (by simpa [Roster.put, same] using known)

theorem vacate (agrees : Agrees volume object path roster) (distinct : Function.Injective path)
    {file : Role} (plain : ¬ (path file).HasNul) :
    Agrees (volume.assign (path file) none) object path (roster.put file .missing) := by
  constructor <;> intro other known <;> by_cases same : other = file
  · simp [Roster.put, same] at known
  · rw [Volume.names_assign_of_ne volume fun equal => same (distinct equal)]
    exact agrees.present other (by simpa [Roster.put, same] using known)
  · rw [same, Volume.names_assign_self volume plain]
  · rw [Volume.names_assign_of_ne volume fun equal => same (distinct equal)]
    exact agrees.missing other (by simpa [Roster.put, same] using known)

theorem note_missing (agrees : Agrees volume object path roster) {file : Role}
    (missing : volume.names (path file) = none) :
    Agrees volume object path (roster.put file .missing) := by
  constructor <;> intro other known <;> by_cases same : other = file
  · simp [Roster.put, same] at known
  · exact agrees.present other (by simpa [Roster.put, same] using known)
  · exact same ▸ missing
  · exact agrees.missing other (by simpa [Roster.put, same] using known)

theorem exists_another (agrees : Agrees volume object path roster)
    (distinct : Function.Injective path) {file : Role} (another : roster.another file) :
    ∃ other, path file ≠ other ∧ volume.names other = some object := by
  obtain ⟨other, _, known⟩ := List.any_eq_true.1 another
  simp only [ne_eq, decide_not, Bool.and_eq_true, Bool.not_eq_eq_eq_not, Bool.not_true,
    decide_eq_false_iff_not, decide_eq_true_eq] at known
  exact ⟨path other, fun same => known.1 (distinct same).symm, agrees.present other known.2⟩

/-- With two names on the roster the object is reported with two names at least. -/
theorem two_le_linkCount (agrees : Agrees volume object path roster)
    (distinct : Function.Injective path) {file : Role} (here : roster file = .present)
    (another : roster.another file) {metadata : Metadata}
    (reports : volume.Reports object metadata) : 2 ≤ metadata.linkCount := by
  obtain ⟨other, differs, there⟩ := agrees.exists_another distinct another
  exact reports.two_le_linkCount differs (agrees.present file here) there

end Agrees

end CopyUp.Scenario
