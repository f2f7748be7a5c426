import CopyUp.Proofs.Drains

/-!
# Stages of the listing check

The listing check goes from stage to stage. At each it comes to know one thing, and this decides
whether it goes on, and where, or with which verdict it ends. The calls of a run alone tell which
stages it went through, so they tell its verdict.
-/

namespace CopyUp.Scenario.Enumeration

open Directory

/-! ## The entry looked for -/

/-- The first of the entries that has the name. -/
def FirstNamed (entry : String) (entries : List Entry) (found : Entry) : Prop :=
  ∃ before behind, entries = before ++ found :: behind ∧ found.name = .ofText entry ∧
    ∀ other ∈ before, other.name ≠ .ofText entry

theorem firstNamed_iff {entry : String} {entries : List Entry} {found : Entry} :
    FirstNamed entry entries found ↔
      (entries.find? fun candidate => candidate.name = .ofText entry) = some found := by
  rw [List.find?_eq_some_iff_append]
  constructor
  · intro first
    have ⟨before, behind, split, named, others⟩ := first
    exact ⟨by simpa using named, before, behind, split, by simpa using others⟩
  · intro first
    have ⟨named, before, behind, split, others⟩ := first
    exact ⟨before, behind, split, by simpa using named, by simpa using others⟩

namespace FirstNamed

variable {entry : String} {entries : List Entry} {found other : Entry}

theorem unique (first : FirstNamed entry entries found) (second : FirstNamed entry entries other) :
    found = other :=
  Option.some.inj ((firstNamed_iff.1 first).symm.trans (firstNamed_iff.1 second))

theorem exists_mem (first : FirstNamed entry entries found) :
    ∃ one ∈ entries, one.name = .ofText entry := by
  have ⟨before, behind, split, named, _⟩ := first
  exact ⟨found, by simp [split], named⟩

theorem ne_nil (first : FirstNamed entry entries found) : entries ≠ [] :=
  List.ne_nil_of_mem first.exists_mem.choose_spec.1

end FirstNamed

/-! ## Stages and ways out -/

inductive Stage
  /-- Is the entry there? -/
  | presence
  | opening
  | listing (fd : Descriptor)
  | parking (fd : Descriptor)
  | closing (fd : Descriptor)
  /-- Reading from a number that has been closed. -/
  | probing (fd : Descriptor)
  | reopening
  /-- Reading from a file that is no directory. -/
  | reading (fd : Descriptor)
  | passed

abbrev Stage.Answer : Stage → Type
  | presence => Except Errno Metadata
  | opening | parking _ | reopening => Except Errno Descriptor
  | listing _ => Except ListingError (List Entry)
  | closing _ => Except Errno Unit
  | probing _ | reading _ => Except Errno Bytes
  | passed => Empty

section

variable (target : Path) (entry : String) (limit : Except Errno UInt64)

def Stage.Asks : (stage : Stage) → stage.Answer → List Asked → Prop
  | presence => Answered .presence (.lstat (target.join entry))
  | opening => Answered .acquire (.openFile target directoryFlags)
  | listing fd => Drained fd
  | parking fd => Answered .acquire (.dup fd (parkingNumber limit))
  | closing fd => Answered .relinquish (.close fd)
  | probing fd | reading fd => Answered .probe (.getdents64 fd bufferLength)
  | reopening => Answered .acquire (.openFile (target.join entry) fileFlags)
  | passed => fun _ _ => False

/-- Every way out of a stage: the answer that leads there, the number that is released first, and
the next stage or the verdict. -/
inductive Exits : (stage : Stage) → stage.Answer → Option Descriptor → Except Interrupt Stage → Prop
  | present {metadata : Metadata} : Exits .presence (.ok metadata) none (.ok .opening)
  | missing :
      Exits .presence (.error .enoent) none (.error (.skip (.entryMissing entry target)))
  | unseen {errno : Errno} (other : errno ≠ .enoent) :
      Exits .presence (.error errno) none (.error (.fail (.call "lstat" (.os errno))))
  | opened {fd : Descriptor} : Exits .opening (.ok fd) none (.ok (.listing fd))
  | unopened {errno : Errno} :
      Exits .opening (.error errno) none (.error (.fail (.call "open(O_DIRECTORY)" (.os errno))))
  | listed {fd : Descriptor} {entries : List Entry} {found : Entry}
      (first : FirstNamed entry entries found) (regular : found.kind = .regular) :
      Exits (.listing fd) (.ok entries) none (.ok (.parking fd))
  | unlisted {fd : Descriptor} {error : ListingError} :
      Exits (.listing fd) (.error error) (some fd) (.error (.fail (.listing target error)))
  | empty {fd : Descriptor} :
      Exits (.listing fd) (.ok []) (some fd) (.error (.fail (.emptyListing target)))
  | unnamed {fd : Descriptor} {entries : List Entry} (more : entries ≠ [])
      (none : ∀ other ∈ entries, other.name ≠ .ofText entry) :
      Exits (.listing fd) (.ok entries) (some fd) (.error (.fail (.missingEntry target entry)))
  | misfiled {fd : Descriptor} {entries : List Entry} {found : Entry}
      (first : FirstNamed entry entries found) (irregular : found.kind ≠ .regular) :
      Exits (.listing fd) (.ok entries) (some fd)
        (.error (.fail (.wrongEntryKind entry .regular found.kind)))
  | parked {fd parked : Descriptor} :
      Exits (.parking fd) (.ok parked) (some fd) (.ok (.closing parked))
  | stays {fd : Descriptor} {errno : Errno} (crowded : errno = .einval ∨ errno = .emfile) :
      Exits (.parking fd) (.error errno) none (.ok (.closing fd))
  | unparked {fd : Descriptor} {errno : Errno} (other : ¬ (errno = .einval ∨ errno = .emfile)) :
      Exits (.parking fd) (.error errno) (some fd)
        (.error (.fail (.call "fcntl(F_DUPFD_CLOEXEC)" (.os errno))))
  | closed {fd : Descriptor} : Exits (.closing fd) (.ok ()) none (.ok (.probing fd))
  | unclosed {fd : Descriptor} {errno : Errno} :
      Exits (.closing fd) (.error errno) none (.error (.fail (.call "close" (.os errno))))
  | refused {fd : Descriptor} : Exits (.probing fd) (.error .ebadf) none (.ok .reopening)
  | granted {fd : Descriptor} {bytes : Bytes} :
      Exits (.probing fd) (.ok bytes) none
        (.error (.fail (.unexpectedSuccess "getdents64 (closed descriptor)" .ebadf)))
  | misjudged {fd : Descriptor} {errno : Errno} (other : errno ≠ .ebadf) :
      Exits (.probing fd) (.error errno) none
        (.error (.fail (.wrongError "getdents64 (closed descriptor)" .ebadf (.os errno))))
  | reopened {fd : Descriptor} : Exits .reopening (.ok fd) none (.ok (.reading fd))
  | unreopened {errno : Errno} :
      Exits .reopening (.error errno) none (.error (.fail (.call "open(O_RDONLY)" (.os errno))))
  | refusedFile {fd : Descriptor} :
      Exits (.reading fd) (.error .enotdir) (some fd) (.ok .passed)
  | grantedFile {fd : Descriptor} {bytes : Bytes} :
      Exits (.reading fd) (.ok bytes) (some fd)
        (.error (.fail (.unexpectedSuccess "getdents64 (regular file)" .enotdir)))
  | misjudgedFile {fd : Descriptor} {errno : Errno} (other : errno ≠ .enotdir) :
      Exits (.reading fd) (.error errno) (some fd)
        (.error (.fail (.wrongError "getdents64 (regular file)" .enotdir (.os errno))))

end

/-- What a stage came to know decides how it is left. -/
theorem Exits.functional {target : Path} {entry : String} {stage : Stage} {answer : stage.Answer}
    {gone lost : Option Descriptor} {first second : Except Interrupt Stage}
    (one : Exits target entry stage answer gone first)
    (other : Exits target entry stage answer lost second) : gone = lost ∧ first = second := by
  cases one with
  | listed found regular =>
      cases other with
      | listed => exact ⟨rfl, rfl⟩
      | empty => exact absurd rfl found.ne_nil
      | unnamed _ none =>
          have ⟨one, member, named⟩ := found.exists_mem
          exact absurd named (none one member)
      | misfiled another irregular => exact absurd (found.unique another ▸ regular) irregular
  | empty =>
      cases other with
      | empty => exact ⟨rfl, rfl⟩
      | listed found | misfiled found => exact absurd rfl found.ne_nil
      | unnamed more => exact absurd rfl more
  | unnamed more none =>
      cases other with
      | unnamed => exact ⟨rfl, rfl⟩
      | empty => exact absurd rfl more
      | listed found | misfiled found =>
          have ⟨one, member, named⟩ := found.exists_mem
          exact absurd named (none one member)
  | misfiled found irregular =>
      cases other with
      | listed another regular => exact absurd (another.unique found ▸ regular) irregular
      | empty => exact absurd rfl found.ne_nil
      | unnamed _ none =>
          have ⟨one, member, named⟩ := found.exists_mem
          exact absurd named (none one member)
      | misfiled another => exact ⟨rfl, by rw [found.unique another]⟩
  | _ => cases other <;> first | exact ⟨rfl, rfl⟩ | contradiction

/-! ## Steps and runs -/

inductive Released : Option Descriptor → List Asked → Prop
  | none : Released none []
  | some {fd : Descriptor} {reply : Except Errno Unit} :
      Released (some fd) [⟨.release, ⟨.close fd, reply⟩⟩]

section

variable (target : Path) (entry : String) (limit : Except Errno UInt64)

/-- A step from a stage to the next one or to a verdict. -/
inductive Leaves (stage : Stage) (result : Except Interrupt Stage) : List Asked → Prop
  | intro {answer : stage.Answer} {gone : Option Descriptor} {asked released : List Asked}
      (asks : stage.Asks target entry limit answer asked)
      (exits : Exits target entry stage answer gone result) (releases : Released gone released) :
      Leaves stage result (asked ++ released)

inductive Runs : Stage → Except Interrupt Stage → List Asked → Prop
  | rests {stage : Stage} : Runs stage (.ok stage) []
  | ends {stage : Stage} {interrupt : Interrupt} {asked : List Asked}
      (leaves : Leaves target entry limit stage (.error interrupt) asked) :
      Runs stage (.error interrupt) asked
  | goes {stage next : Stage} {result : Except Interrupt Stage} {asked more : List Asked}
      (leaves : Leaves target entry limit stage (.ok next) asked) (later : Runs next result more) :
      Runs stage result (asked ++ more)

end

variable {target : Path} {entry : String} {limit : Except Errno UInt64} {stage next : Stage}
  {result : Except Interrupt Stage} {asked more : List Asked}

theorem Stage.selfDelimiting_asks (stage : Stage) :
    SelfDelimiting (stage.Asks target entry limit) := by
  cases stage with
  | presence | opening | parking | closing | probing | reopening | reading =>
      exact Answered.selfDelimiting _ _
  | listing fd => exact Drained.selfDelimiting fd
  | passed => exact fun answer => nomatch answer

theorem Leaves.selfDelimiting (stage : Stage) :
    SelfDelimiting (Leaves target entry limit stage) := by
  intro first second asked others more rest one other same
  cases one with
  | @intro answer _ calls _ asks exits releases =>
      cases other with
      | @intro another _ calling _ asking leaving releasing =>
          rw [List.append_assoc, List.append_assoc] at same
          have ⟨answers, alike⟩ := stage.selfDelimiting_asks asks asking same
          cases answers
          cases alike
          have ⟨numbers, results⟩ := exits.functional leaving
          cases numbers
          cases results
          have behind := List.append_cancel_left same
          cases releases with
          | none =>
              cases releasing
              exact ⟨rfl, rfl⟩
          | some =>
              cases releasing
              cases (List.cons.inj behind).1
              exact ⟨rfl, rfl⟩

theorem Leaves.runs (leaves : Leaves target entry limit stage result asked) :
    Runs target entry limit stage result asked := by
  cases result with
  | error interrupt => exact .ends leaves
  | ok next =>
      rw [← List.append_nil asked]
      exact .goes leaves .rests

theorem Runs.trans (first : Runs target entry limit stage (.ok next) asked)
    (later : Runs target entry limit next result more) :
    Runs target entry limit stage result (asked ++ more) := by
  generalize reached : (Except.ok next : Except Interrupt Stage) = between at first
  induction first with
  | rests =>
      cases reached
      exact later
  | ends => contradiction
  | goes leaves _ ih =>
      rw [List.append_assoc]
      exact .goes leaves (ih reached)

/-- A run has ended with a verdict, or all its stages are passed. -/
def Ended (result : Except Interrupt Stage) : Prop := ∀ next, result = .ok next → next = .passed

theorem not_leaves_passed : ¬ Leaves target entry limit .passed result asked := by
  intro leaves
  cases leaves with
  | intro asks => exact asks

/-- The calls of a whole run tell its verdict. -/
theorem Runs.unique {other : Except Interrupt Stage}
    (one : Runs target entry limit stage result asked) (ended : Ended result)
    (another : Runs target entry limit stage other asked) (finished : Ended other) :
    result = other := by
  generalize same : asked = others at another
  induction one generalizing others with
  | rests =>
      cases ended _ rfl
      cases another with
      | rests => rfl
      | ends leaves | goes leaves => exact absurd leaves not_leaves_passed
  | ends leaves =>
      cases another with
      | rests =>
          cases finished _ rfl
          exact absurd leaves not_leaves_passed
      | ends leaving =>
          exact (Leaves.selfDelimiting _ leaves leaving (congrArg (· ++ []) same)).1
      | goes leaving =>
          cases (Leaves.selfDelimiting _ leaves leaving ((List.append_nil _).trans same)).1
  | goes leaves _ ih =>
      cases another with
      | rests =>
          cases finished _ rfl
          exact absurd leaves not_leaves_passed
      | ends leaving =>
          cases (Leaves.selfDelimiting _ leaves leaving (same.trans (List.append_nil _).symm)).1
      | goes leaving later =>
          have ⟨stages, calls⟩ := Leaves.selfDelimiting _ leaves leaving same
          cases stages
          cases calls
          exact ih ended _ (List.append_cancel_left same) later

/-- A way out is a run of one step. -/
theorem Exits.runs {answer : stage.Answer} {gone : Option Descriptor} {released : List Asked}
    (exits : Exits target entry stage answer gone result)
    (asks : stage.Asks target entry limit answer asked) (releases : Released gone released) :
    Runs target entry limit stage result (asked ++ released) :=
  (Leaves.intro asks exits releases).runs

theorem Exits.runs_silently {answer : stage.Answer}
    (exits : Exits target entry stage answer none result)
    (asks : stage.Asks target entry limit answer asked) :
    Runs target entry limit stage result asked := by
  have ends := exits.runs asks .none
  rw [List.append_nil] at ends
  exact ends

theorem answered_once (purpose : Purpose) (call : Call) (plain : ¬ call.restarts)
    (reply : Except Errno call.Reply) : Answered purpose call reply [⟨purpose, ⟨call, reply⟩⟩] :=
  .once fun restarts => absurd restarts plain

end CopyUp.Scenario.Enumeration
