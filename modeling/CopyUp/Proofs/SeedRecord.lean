import CopyUp.Proofs.Contents
import CopyUp.Proofs.Program

/-!
# The record of seeding

Seeding writes ten files and removes three names, one call after another. Its record is a beginning
of that program, each file is released right after the last call through it, and the first error
ends the run. If none does, the files hold what they should and the names are gone, whatever there
was before and however the bytes were parted.
-/

namespace CopyUp

open FileSystem (Written)

/-! ## Faults -/

namespace Asked

/-- The error that ends a seeding at a call. An interrupted call that is made again is none, nor is
whatever a close is answered, nor a removal that finds nothing. -/
def fault? (one : Asked) : Option IoError :=
  match one.exchange with
  | ⟨.close _, _⟩ => none
  | ⟨.unlink _, .error errno⟩ => if errno = .enoent then none else some (.os errno)
  | ⟨.write .., .ok count⟩ => if count = 0 then some .nothingWritten else none
  | ⟨_, .ok _⟩ => none
  | ⟨call, .error errno⟩ => if call.restarts ∧ errno = .eintr then none else some (.os errno)

theorem fault?_of_interrupted (purpose : Purpose) {call : Call} (restarts : call.restarts) :
    fault? ⟨purpose, ⟨call, .error .eintr⟩⟩ = none := by
  cases call <;> first | rfl | contradiction

theorem fault?_of_refused (purpose : Purpose) {call : Call} {errno : Errno}
    (restarts : call.restarts) (settled : errno ≠ .eintr) :
    fault? ⟨purpose, ⟨call, .error errno⟩⟩ = some (.os errno) := by
  cases call <;> first | contradiction | simp [fault?, settled]

theorem fault?_of_taken (purpose : Purpose) (fd : Descriptor) (bytes : Bytes) (count : Nat) :
    fault? ⟨purpose, ⟨.write fd bytes, .ok count⟩⟩ =
      if count = 0 then some .nothingWritten else none := rfl

theorem fault?_of_unlink (purpose : Purpose) (path : Path) (errno : Errno) :
    fault? ⟨purpose, ⟨.unlink path, .error errno⟩⟩ =
      if errno = .enoent then none else some (.os errno) := rfl

/-- Nothing goes wrong. -/
def Smooth (asked : List Asked) : Prop := ∀ one ∈ asked, one.fault? = none

/-- Nothing goes wrong before the last call, which works through this number and fails. -/
def Halts (number : Option Descriptor) (error : IoError) (asked : List Asked) : Prop :=
  ∃ before one, asked = before ++ [one] ∧ Smooth before ∧ one.fault? = some error ∧
    one.call.descriptor? = number

/-- Nothing goes wrong before a call that fails, and behind it there is the close of the file that
it works through, if it works through one, and nothing else. -/
def StopsAt (error : IoError) (asked : List Asked) : Prop :=
  ∃ before one after, asked = before ++ one :: after ∧ Smooth before ∧
    one.fault? = some error ∧ after.map call = one.call.descriptor?.toList.map Call.close

theorem smooth_nil : Smooth [] := fun _ member => absurd member List.not_mem_nil

theorem Smooth.append {first second : List Asked} (left : Smooth first)
    (right : Smooth second) : Smooth (first ++ second) :=
  List.forall_mem_append.2 ⟨left, right⟩

theorem Halts.prepend {number : Option Descriptor} {error : IoError} {first asked : List Asked}
    (fine : Smooth first) (halts : Halts number error asked) :
    Halts number error (first ++ asked) := by
  have ⟨before, one, same, calm, wrong, through⟩ := halts
  exact ⟨first ++ before, one, by rw [same, List.append_assoc], fine.append calm, wrong, through⟩

theorem Halts.stopsAt {error : IoError} {asked : List Asked} (halts : Halts none error asked) :
    StopsAt error asked := by
  have ⟨before, one, same, calm, wrong, through⟩ := halts
  exact ⟨before, one, [], same, calm, wrong, by rw [through]; rfl⟩

theorem Halts.stopsAt_close {error : IoError} {asked : List Asked} {fd : Descriptor}
    (halts : Halts (some fd) error asked) (closed : Except Errno Unit) :
    StopsAt error (asked ++ [⟨.release, ⟨.close fd, closed⟩⟩]) := by
  have ⟨before, one, same, calm, wrong, through⟩ := halts
  refine ⟨before, one, [⟨.release, ⟨.close fd, closed⟩⟩], ?_, calm, wrong, ?_⟩
  · rw [same, List.append_assoc, List.singleton_append]
  · rw [through]
    rfl

theorem StopsAt.prepend {error : IoError} {first asked : List Asked} (fine : Smooth first)
    (stops : StopsAt error asked) : StopsAt error (first ++ asked) := by
  have ⟨before, one, after, same, calm, wrong, behind⟩ := stops
  exact ⟨first ++ before, one, after, by rw [same, List.append_assoc], fine.append calm, wrong,
    behind⟩

end Asked

open Asked (Smooth Halts StopsAt)

namespace Answered

variable {purpose : Purpose} {call : Call} {reply : Except Errno call.Reply} {asked : List Asked}

theorem smooth (answered : Answered purpose call reply asked)
    (fine : Asked.fault? ⟨purpose, ⟨call, reply⟩⟩ = none) : Smooth asked := by
  induction answered with
  | once => exact List.forall_mem_singleton.2 fine
  | again restarts _ ih =>
      exact List.forall_mem_cons.2 ⟨Asked.fault?_of_interrupted purpose restarts, ih⟩

theorem halts {error : IoError} (answered : Answered purpose call reply asked)
    (wrong : Asked.fault? ⟨purpose, ⟨call, reply⟩⟩ = some error) :
    Halts call.descriptor? error asked := by
  induction answered with
  | once => exact ⟨[], ⟨purpose, ⟨call, reply⟩⟩, rfl, Asked.smooth_nil, wrong, rfl⟩
  | again restarts _ ih =>
      have fine : Smooth [⟨purpose, ⟨call, .error .eintr⟩⟩] :=
        List.forall_mem_singleton.2 (Asked.fault?_of_interrupted purpose restarts)
      exact ih.prepend fine

theorem halts_of_error {errno : Errno} (answered : Answered purpose call (.error errno) asked)
    (restarts : call.restarts) : Halts call.descriptor? (.os errno) asked :=
  answered.halts (Asked.fault?_of_refused purpose restarts
    fun again => answered.settled restarts (congrArg Except.error again))

end Answered

namespace FileSystem

variable {purpose : Purpose} {fd : Descriptor} {bytes : Bytes} {place : Placement}
  {asked : List Asked}

/-- A write in which nothing goes wrong, or which fails with its last offer. -/
theorem Written.smooth_or_halts {result : Except IoError Unit}
    (written : Written purpose fd .next bytes result asked) :
    (result = .ok () ∧ Smooth asked) ∨
      ∃ error, result = .error error ∧ Halts (some fd) error asked := by
  generalize goes : Placement.next = place at written
  induction written with
  | done => exact .inl ⟨rfl, Asked.smooth_nil⟩
  | refused _ offered =>
      cases offered with
      | next answered => exact .inr ⟨_, rfl, answered.halts_of_error rfl⟩
      | «at» => contradiction
  | stuck _ offered =>
      cases offered with
      | next answered =>
          exact .inr ⟨.nothingWritten, rfl,
            answered.halts ((Asked.fault?_of_taken ..).trans (if_pos rfl))⟩
      | «at» => contradiction
  | took _ some offered _ ih =>
      cases offered with
      | «at» => contradiction
      | next answered =>
          have fine := answered.smooth
            ((Asked.fault?_of_taken purpose fd _ _).trans (if_neg (Nat.pos_iff_ne_zero.1 some)))
          cases ih rfl with
          | inl worked => exact .inl ⟨worked.1, fine.append worked.2⟩
          | inr failed =>
              have ⟨error, same, halts⟩ := failed
              exact .inr ⟨error, same, halts.prepend fine⟩

end FileSystem

namespace Fixture

/-! ## What a seeded directory holds -/

def fileNames : List String :=
  ["copyup_write_test.txt", "copyup_truncate_test.txt", "copyup_chmod_test.txt",
    "copyup_chown_test.txt", "copyup_rename_test.txt", "copyup_link_test.txt",
    "copyup_utimes_test.txt", "copyup_xattr_test.txt", "copyup_fallocate_test.txt", "test.txt"]

/-- Names that a run of the scenarios gives to a fixture and may leave behind. -/
def formerNames : List String :=
  ["copyup_rename_test_renamed.txt", "copyup_link_test_hardlink.txt",
    "copyup_link_test_hardlink2.txt"]

def contents : Bytes := .ofText "copy-up fixture payload\n"

def creation : OpenFlags := { access := .writeOnly, create := some 0o644, truncate := true }

theorem names_eq : names = fileNames := by decide

theorem leftovers_eq : leftovers = formerNames := rfl

/-! ## The course of seeding -/

inductive FileSeeded (path : Path) : Except IoError Unit → List Asked → Prop
  | notOpened {errno : Errno} {opening : List Asked}
      (answered : Answered .acquire (.openFile path creation) (.error errno) opening) :
      FileSeeded path (.error (.os errno)) opening
  | notWritten {fd : Descriptor} {error : IoError} {closed : Except Errno Unit}
      {opening writing : List Asked}
      (answered : Answered .acquire (.openFile path creation) (.ok fd) opening)
      (written : Written .seeding fd .next contents (.error error) writing) :
      FileSeeded path (.error error) (opening ++ writing ++ [⟨.release, ⟨.close fd, closed⟩⟩])
  | written {fd : Descriptor} {reply : Except Errno Unit} {closed : Except Errno Unit}
      {opening writing setting : List Asked}
      (answered : Answered .acquire (.openFile path creation) (.ok fd) opening)
      (written : Written .seeding fd .next contents (.ok ()) writing)
      (set : Answered .seeding (.fchmod fd 0o644) reply setting) :
      FileSeeded path (reply.mapError .os)
        (opening ++ (writing ++ setting) ++ [⟨.release, ⟨.close fd, closed⟩⟩])

inductive Cleared (path : Path) : Except IoError Unit → List Asked → Prop
  | asked {reply : Except Errno Unit} :
      Cleared path (FileSystem.removed reply) [⟨.stale, ⟨.unlink path, reply⟩⟩]

/-- The files that are seeded, in order. -/
def seeded (directory : Path) : List Path := fileNames.map directory.join

def cleared (directory : Path) : List Path := formerNames.map directory.join

inductive Seeded (directory : Path) : Except IoError (List Path) → List Asked → Prop
  | halfway {error : IoError} {asked : List Asked}
      (files : InTurn FileSeeded (seeded directory) (.error error) asked) :
      Seeded directory (.error error) asked
  | throughout {result : Except IoError Unit} {first rest : List Asked}
      (files : InTurn FileSeeded (seeded directory) (.ok ()) first)
      (gone : InTurn Cleared (cleared directory) result rest) :
      Seeded directory ((fun _ => seeded directory) <$> result) (first ++ rest)

section Ensures

variable {σ : Type} [Kernel σ]

theorem ensures_seedFile {path : Path} (clean : ¬ path.HasNul) :
    (seedFile (σ := σ) path).Ensures (FileSeeded path) := by
  apply (FileSystem.opens_issue clean creation).ensures_withFile
  · exact fun errno asked answered => .notOpened answered
  · intro fd opening answered
    apply (FileSystem.ensures_writeAll .seeding fd .next contents).bind
    · exact fun error writing written closed => .notWritten answered written
    · intro _ writing written
      apply (FileSystem.ensures_issue_of_clean .seeding (by simp [Call.paths])).bind
      · intro error setting told closed
        obtain ⟨reply, same, set⟩ := told
        rw [same]
        exact .written answered written set
      · intro _ setting told
        obtain ⟨reply, same, set⟩ := told
        apply Attempt.Ensures.log
        intro closed
        rw [List.append_nil, same]
        exact .written answered written set

omit [Kernel σ] in
/-- What is done for each name in a directory is done for each path. -/
theorem forM_join (names : List String) (directory : Path)
    (body : Path → Attempt σ IoError PUnit) :
    (names.forM fun name => body (directory.join name)) =
      (names.map directory.join).forM body := by
  induction names with
  | nil => rfl
  | cons name rest ih =>
      simp only [List.forM_eq_forM, List.forM_cons, List.map_cons] at *
      rw [ih]

theorem ensures_seed {directory : Path} (clean : ¬ directory.HasNul) :
    (seed (σ := σ) directory).Ensures (Seeded directory) := by
  have plain : ∀ name ∈ fileNames ++ formerNames, ¬ Path.HasNul name := by decide
  have files : ((seeded directory).forM (seedFile (σ := σ))).Ensures
      (InTurn FileSeeded (seeded directory)) := by
    apply Attempt.ensures_forM
    intro path member
    have ⟨name, among, same⟩ := List.mem_map.1 member
    rw [← same]
    exact ensures_seedFile
      (Path.not_hasNul_join clean (plain name (List.mem_append_left _ among)))
  have gone : (formerNames.forM fun name =>
      FileSystem.removeStale (σ := σ) (directory.join name)).Ensures
        (InTurn Cleared (cleared directory)) := by
    rw [forM_join formerNames directory (FileSystem.removeStale (σ := σ))]
    apply Attempt.ensures_forM
    intro path member
    have ⟨name, among, same⟩ := List.mem_map.1 member
    rw [← same]
    have free := Path.not_hasNul_join clean (plain name (List.mem_append_right _ among))
    exact (FileSystem.asksOnce_removeStale free).ensures_each fun reply => .asked
  rw [seed, names_eq, leftovers_eq]
  apply files.bind
  · exact fun error asked stopped => .halfway stopped
  · intro _ first worked
    apply gone.bind
    · exact fun error rest stopped => .throughout worked stopped
    · intro _ rest removed
      have told := Attempt.Silent.after_log (σ := σ) (ε := IoError) (.pure (seeded directory)) .info
        s!"seeded {(seeded directory).length} fixtures in {directory}"
      apply told.ensures_of
      rw [List.append_nil]
      exact .throughout worked removed

end Ensures

variable {result : Except IoError Unit} {asked : List Asked} {path : Path} {paths : List Path}

/-! ## The first error -/

/-- Nothing goes wrong if it works, and otherwise it stops at what goes wrong first. -/
def EndsAtFault {α : Type} : Except IoError α → List Asked → Prop
  | .ok _, asked => Smooth asked
  | .error error, asked => StopsAt error asked

theorem endsAtFault_of_inTurn {α : Type}
    {does : α → Except IoError Unit → List Asked → Prop}
    {items : List α} (inTurn : InTurn does items result asked)
    (each : ∀ item result asked, does item result asked → EndsAtFault result asked) :
    EndsAtFault result asked := by
  induction inTurn with
  | done => exact Asked.smooth_nil
  | stops failed => exact each _ _ _ failed
  | @goes item rest result first more worked _ ih =>
      have fine : Smooth first := each _ _ _ worked
      cases result with
      | ok => exact fine.append ih
      | error error => exact Asked.StopsAt.prepend fine ih

theorem smooth_close (fd : Descriptor) (closed : Except Errno Unit) :
    Smooth [⟨.release, ⟨.close fd, closed⟩⟩] :=
  List.forall_mem_singleton.2 rfl

theorem FileSeeded.endsAtFault (seeded : FileSeeded path result asked) :
    EndsAtFault result asked := by
  cases seeded with
  | notOpened answered => exact (answered.halts_of_error rfl).stopsAt
  | notWritten answered written =>
      have opened := answered.smooth rfl
      cases written.smooth_or_halts with
      | inl worked => cases worked.1
      | inr failed =>
          have ⟨error, same, halts⟩ := failed
          cases same
          exact (halts.prepend opened).stopsAt_close _
  | @written fd reply closed opening writing setting answered written set =>
      have opened := answered.smooth rfl
      cases written.smooth_or_halts with
      | inr failed =>
          have ⟨_, same, _⟩ := failed
          cases same
      | inl worked =>
          cases reply with
          | ok =>
              have finished := opened.append (worked.2.append (set.smooth rfl))
              exact finished.append (smooth_close fd closed)
          | error errno =>
              have halts := (set.halts_of_error rfl).prepend worked.2
              exact (halts.prepend opened).stopsAt_close closed

theorem Cleared.endsAtFault (gone : Cleared path result asked) : EndsAtFault result asked := by
  cases gone with
  | @asked reply =>
      cases reply with
      | ok => exact List.forall_mem_singleton.2 rfl
      | error errno =>
          by_cases missing : errno = .enoent
          · simp only [FileSystem.removed, missing, if_true]
            exact List.forall_mem_singleton.2 ((Asked.fault?_of_unlink ..).trans (if_pos rfl))
          · simp only [FileSystem.removed, missing, if_false]
            exact ⟨[], _, [], rfl, Asked.smooth_nil,
              (Asked.fault?_of_unlink ..).trans (if_neg missing), rfl⟩

theorem Seeded.endsAtFault {directory : Path} {result : Except IoError (List Path)}
    (course : Seeded directory result asked) : EndsAtFault result asked := by
  cases course with
  | halfway files => exact endsAtFault_of_inTurn files fun _ _ _ => FileSeeded.endsAtFault
  | @throughout result first rest files gone =>
      have fine : Smooth first := endsAtFault_of_inTurn files fun _ _ _ => FileSeeded.endsAtFault
      have later := endsAtFault_of_inTurn gone fun _ _ _ => Cleared.endsAtFault
      cases result with
      | ok => exact fine.append later
      | error error => exact Asked.StopsAt.prepend fine later

/-! ## Files one after another -/

/-- A record is made of calls that name paths only, and of one stretch for each file that was opened:
its opening, the calls through its number, and the close of that number. The files come with the
bytes that their stretch got taken. -/
inductive Tended : List (Path × Bytes) → List Asked → Prop
  | nil : Tended [] []
  | apart {one : Asked} {files : List (Path × Bytes)} {rest : List Asked}
      (unopened : one.opened? = none) (nameless : one.call.descriptor? = none)
      (later : Tended files rest) : Tended files (one :: rest)
  | file {purpose : Purpose} {path : Path} {flags : OpenFlags} {fd : Descriptor} {closing : Asked}
      {files : List (Path × Bytes)} {used rest : List Asked}
      (through : ∀ one ∈ used, one.call.descriptor? = some fd ∧ one.closed? = none)
      (closes : closing.call = .close fd) (later : Tended files rest) :
      Tended ((path, Asked.taken used) :: files)
        (⟨purpose, ⟨.openFile path flags, .ok fd⟩⟩ :: (used ++ closing :: rest))

namespace Tended

variable {first second : List (Path × Bytes)} {more : List Asked}

theorem append (left : Tended first asked) (right : Tended second more) :
    Tended (first ++ second) (asked ++ more) := by
  induction left with
  | nil => exact right
  | apart unopened nameless _ ih => exact .apart unopened nameless ih
  | file through closes _ ih =>
      simp only [List.cons_append, List.append_assoc]
      exact .file through closes ih

theorem of_apart (apart : ∀ one ∈ asked, one.opened? = none ∧ one.call.descriptor? = none) :
    Tended [] asked := by
  induction asked with
  | nil => exact .nil
  | cons one rest ih =>
      have ⟨here, later⟩ := List.forall_mem_cons.1 apart
      exact .apart here.1 here.2 (ih later)

end Tended

/-- Attempts to open a file before it is opened. -/
theorem tended_of_opening {purpose : Purpose} {flags : OpenFlags} {fd : Descriptor}
    {opening used : List Asked} {closing : Asked}
    (answered : Answered purpose (.openFile path flags) (.ok fd) opening)
    (through : ∀ one ∈ used, one.call.descriptor? = some fd ∧ one.closed? = none)
    (closes : closing.call = .close fd) :
    Tended [(path, Asked.taken used)] (opening ++ used ++ [closing]) := by
  have ⟨interrupted, same, alike⟩ := answered.exists_eq_append
  have before : Tended [] interrupted := by
    apply Tended.of_apart
    intro one member
    rw [alike one member]
    exact ⟨rfl, rfl⟩
  have stretch : Tended [(path, Asked.taken used)]
      (⟨purpose, ⟨.openFile path flags, .ok fd⟩⟩ :: (used ++ [closing])) :=
    .file through closes .nil
  have whole := before.append stretch
  rw [same]
  simpa using whole

theorem through_of_written {purpose : Purpose} {fd : Descriptor} {place : FileSystem.Placement}
    {bytes : Bytes} (written : Written purpose fd place bytes result asked) :
    ∀ one ∈ asked, one.call.descriptor? = some fd ∧ one.closed? = none := by
  intro one member
  have ⟨place, part, reply, same⟩ := written.eq_asked member
  rw [same]
  cases place <;> exact ⟨rfl, rfl⟩

/-- The files are a beginning of these and each was given a beginning of the contents, or they are all
of these and each was given all of it. -/
def Pours (paths : List Path) (result : Except IoError Unit) (asked : List Asked) : Prop :=
  ∃ files, Tended files asked ∧ files.map Prod.fst <+: paths ∧
    (∀ file ∈ files, file.2 <+: contents) ∧
      (result = .ok () → files = paths.map fun path => (path, contents))

theorem FileSeeded.pours (course : FileSeeded path result asked) : Pours [path] result asked := by
  cases course with
  | @notOpened errno opening answered =>
      refine ⟨[], Tended.of_apart fun one member => ?_, List.nil_prefix, nofun, nofun⟩
      have ⟨interrupted, same, alike⟩ := answered.exists_eq_append
      rw [same] at member
      cases List.mem_append.1 member with
      | inl earlier =>
          rw [alike one earlier]
          exact ⟨rfl, rfl⟩
      | inr last =>
          rw [List.mem_singleton.1 last]
          exact ⟨rfl, rfl⟩
  | notWritten answered written =>
      exact ⟨_, tended_of_opening answered (through_of_written written) rfl, List.prefix_rfl,
        List.forall_mem_singleton.2 written.taken_prefix.1, nofun⟩
  | @written fd reply closed opening writing setting answered written set =>
      have through : ∀ one ∈ writing ++ setting,
          one.call.descriptor? = some fd ∧ one.closed? = none := by
        apply List.forall_mem_append.2 ⟨through_of_written written, ?_⟩
        intro one member
        unfold Asked.closed?
        rw [(set.same member).2]
        exact ⟨rfl, rfl⟩
      have poured : Asked.taken (writing ++ setting) = contents := by
        have sets : Asked.taken setting = [] := by
          rw [set.taken_eq]
          rfl
        rw [Asked.taken_append, written.taken_prefix.2 rfl, sets, List.append_nil]
      have tended : Tended [(path, Asked.taken (writing ++ setting))]
          (opening ++ (writing ++ setting) ++ [⟨.release, ⟨.close fd, closed⟩⟩]) :=
        tended_of_opening answered through rfl
      rw [poured] at tended
      exact ⟨_, tended, List.prefix_rfl, List.forall_mem_singleton.2 List.prefix_rfl, fun _ => rfl⟩

theorem pours_of_inTurn (inTurn : InTurn FileSeeded paths result asked) :
    Pours paths result asked := by
  induction inTurn with
  | done => exact ⟨[], .nil, List.nil_prefix, nofun, fun _ => rfl⟩
  | @stops path rest error asked failed =>
      have ⟨files, tended, order, bytes, _⟩ := failed.pours
      exact ⟨files, tended, order.trans ⟨rest, rfl⟩, bytes, nofun⟩
  | @goes path rest result first more worked _ ih =>
      have ⟨files, tended, _, _, all⟩ := worked.pours
      have ⟨others, later, order, bytes, whole⟩ := ih
      cases all rfl
      refine ⟨_, tended.append later, (List.prefix_cons_inj path).2 order, ?_, fun works => ?_⟩
      · exact List.forall_mem_cons.2 ⟨List.prefix_rfl, bytes⟩
      · rw [whole works]
        rfl

theorem apart_of_cleared (inTurn : InTurn Cleared paths result asked) :
    ∀ one ∈ asked, one.opened? = none ∧ one.call.descriptor? = none := by
  refine inTurn.forall_mem fun path _ result asked gone => ?_
  cases gone with
  | asked => exact List.forall_mem_singleton.2 ⟨rfl, rfl⟩

/-! ## The program of seeding -/

open Scenario (Planned Begins)

def counts : Call → Bool
  | .close _ => false
  | _ => true

/-- The efforts of a record: its calls without the closes, each interrupted attempt joined with the
one that follows it and each offer of bytes with the one that goes on behind it. -/
def efforts (asked : List Asked) : List Asked := Asked.efforts counts asked

def fileProgram (path : Path) (fd : Descriptor) : List Planned :=
  [.named (.openFile path creation), .named (.write fd contents), .named (.fchmod fd 0o644)]

def program (directory : Path) (numbers : List Descriptor) : List Planned :=
  (List.zipWith fileProgram (seeded directory) numbers).flatten ++
    (cleared directory).map Planned.leftover

/-- The program is carried out, and what follows it starts something new. -/
def Completes (program : List Planned) (asked : List Asked) : Prop :=
  ∃ done, List.Forall₂ Planned.Met program done ∧
    ∀ more, efforts (asked ++ more) = done ++ efforts more

def CarriesOut (program : List Planned) : Except IoError Unit → List Asked → Prop
  | .ok _, asked => Completes program asked
  | .error _, asked => Begins program (efforts asked)

namespace Completes

variable {first second : List Planned} {more : List Asked}

theorem append (left : Completes first asked) (right : Completes second more) :
    Completes (first ++ second) (asked ++ more) := by
  have ⟨done, met, before⟩ := left
  have ⟨later, also, after⟩ := right
  refine ⟨done ++ later, List.rel_append met also, fun rest => ?_⟩
  rw [List.append_assoc, before, after, List.append_assoc]

theorem efforts_met (completes : Completes first asked) :
    List.Forall₂ Planned.Met first (efforts asked) := by
  have ⟨done, met, same⟩ := completes
  have made := same []
  rw [List.append_nil] at made
  rw [made, show efforts [] = [] from rfl, List.append_nil]
  exact met

theorem begins (completes : Completes first asked) : Begins first (efforts asked) := by
  have all := Begins.after completes.efforts_met (Begins.stopped : Begins [] [])
  rwa [List.append_nil, List.append_nil] at all

theorem begins_append (completes : Completes first asked) (later : Begins second (efforts more)) :
    Begins (first ++ second) (efforts (asked ++ more)) := by
  have ⟨done, met, same⟩ := completes
  rw [same]
  exact .after met later

/-- One effort that is met, whatever comes behind it. -/
theorem single {planned : Planned} {one : Asked} (met : planned.Met one)
    (joins : ∀ more, efforts (asked ++ more) = one.attach (efforts more)) :
    Completes [planned] asked := by
  refine ⟨[one], .cons met .nil, fun more => ?_⟩
  rw [joins, met.attach]
  rfl

end Completes

/-- A close in between does not count. -/
theorem efforts_append_close (asked : List Asked) (fd : Descriptor) (closed : Except Errno Unit)
    (more : List Asked) :
    efforts (asked ++ [⟨.release, ⟨.close fd, closed⟩⟩] ++ more) = efforts (asked ++ more) := by
  unfold efforts Asked.efforts
  simp only [List.filter_append, List.append_assoc]
  rfl

theorem met_named {call : Call} {purpose : Purpose} {reply : Except Errno call.Reply}
    (granted : Asked.Granted ⟨purpose, ⟨call, reply⟩⟩) :
    (Planned.named call).Met ⟨purpose, ⟨call, reply⟩⟩ :=
  ⟨⟨0, rfl⟩, .inl granted⟩

theorem Completes.close {program : List Planned} (completes : Completes program asked)
    (fd : Descriptor) (closed : Except Errno Unit) :
    Completes program (asked ++ [⟨.release, ⟨.close fd, closed⟩⟩]) := by
  have ⟨done, met, same⟩ := completes
  exact ⟨done, met, fun more => by rw [efforts_append_close, same]⟩

theorem begins_close {program : List Planned} (begins : Begins program (efforts asked))
    (fd : Descriptor) (closed : Except Errno Unit) :
    Begins program (efforts (asked ++ [⟨.release, ⟨.close fd, closed⟩⟩])) := by
  have same := efforts_append_close asked fd closed []
  rw [List.append_nil, List.append_nil] at same
  rwa [same]

theorem begins_of_answered {purpose : Purpose} {call : Call} {reply : Except Errno call.Reply}
    (answered : Answered purpose call reply asked) (kept : counts call) (rest : List Planned) :
    Begins (.named call :: rest) (efforts asked) := by
  have made := answered.efforts_append kept []
  rw [List.append_nil] at made
  have same : efforts asked = [⟨purpose, ⟨call, reply⟩⟩] := made
  rw [same]
  exact .last ⟨0, rfl⟩

theorem completes_of_answered {purpose : Purpose} {call : Call} {reply : Except Errno call.Reply}
    (answered : Answered purpose call reply asked) (kept : counts call)
    (granted : Asked.Granted ⟨purpose, ⟨call, reply⟩⟩) : Completes [.named call] asked :=
  .single (met_named granted) (answered.efforts_append kept)

theorem contents_ne_nil : contents ≠ [] := by decide

theorem counts_offer {fd : Descriptor} (place : FileSystem.Placement) (bytes : Bytes) :
    counts (place.call fd bytes) := by
  cases place <;> rfl

theorem completes_of_written {fd : Descriptor}
    (written : Written .seeding fd .next contents (.ok ()) asked) :
    Completes [.named (.write fd contents)] asked := by
  have met : (Planned.named (.write fd contents)).Met
      ⟨.seeding, ⟨.write fd contents, .ok contents.length⟩⟩ := met_named rfl
  exact ⟨_, .cons met .nil, written.efforts_append rfl contents_ne_nil counts_offer⟩

theorem openings_of_answered {purpose : Purpose} {call : Call} {reply : Except Errno call.Reply}
    (answered : Answered purpose call reply asked) :
    asked.filterMap Asked.opened? = (Asked.opened? ⟨purpose, ⟨call, reply⟩⟩).toList := by
  induction answered with
  | once => rw [List.filterMap_cons, List.filterMap_nil]; cases Asked.opened? _ <;> rfl
  | again restarts _ ih =>
      have none : Asked.opened? ⟨purpose, ⟨call, .error .eintr⟩⟩ = none := by cases call <;> rfl
      rw [List.filterMap_cons_none none, ih]

theorem openings_of_written {purpose : Purpose} {fd : Descriptor} {place : FileSystem.Placement}
    {bytes : Bytes} (written : Written purpose fd place bytes result asked) :
    asked.filterMap Asked.opened? = [] := by
  apply List.filterMap_eq_nil_iff.2
  intro one member
  have ⟨place, part, reply, same⟩ := written.eq_asked member
  rw [same]
  cases place <;> rfl

theorem begins_of_written {fd : Descriptor} {error : IoError}
    (written : Written .seeding fd .next contents (.error error) asked) (rest : List Planned) :
    Begins (.named (.write fd contents) :: rest) (efforts asked) := by
  have ⟨reply, made⟩ := written.exists_efforts contents_ne_nil counts_offer
  have same : efforts asked = [⟨.seeding, ⟨.write fd contents, reply⟩⟩] := made
  rw [same]
  exact .last ⟨0, rfl⟩

theorem FileSeeded.carriesOut (course : FileSeeded path result asked) :
    ∃ fd, asked.filterMap Asked.opened? <+: [fd] ∧
      (result = .ok () → asked.filterMap Asked.opened? = [fd]) ∧
        CarriesOut (fileProgram path fd) result asked := by
  cases course with
  | notOpened answered =>
      refine ⟨0, ?_, nofun, begins_of_answered answered rfl _⟩
      rw [openings_of_answered answered]
      exact List.nil_prefix
  | @notWritten fd error closed opening writing answered written =>
      refine ⟨fd, ?_, nofun, ?_⟩
      · rw [List.filterMap_append, List.filterMap_append, openings_of_answered answered,
          openings_of_written written]
        exact List.prefix_rfl
      · have opens := completes_of_answered answered rfl trivial
        exact begins_close (opens.begins_append (begins_of_written written _)) fd closed
  | @written fd reply closed opening writing setting answered written set =>
      have openings : List.filterMap Asked.opened? (opening ++ (writing ++ setting) ++
          [⟨.release, ⟨.close fd, closed⟩⟩]) = [fd] := by
        simp only [List.filterMap_append, openings_of_answered answered,
          openings_of_written written, openings_of_answered set]
        rfl
      refine ⟨fd, ⟨[], (List.append_nil _).trans openings⟩, fun _ => openings, ?_⟩
      have opens := completes_of_answered answered rfl trivial
      have writes := completes_of_written written
      cases reply with
      | ok =>
          have sets := completes_of_answered set rfl trivial
          exact (opens.append (writes.append sets)).close fd closed
      | error errno =>
          have last := begins_of_answered set rfl []
          exact begins_close (opens.begins_append (writes.begins_append last)) fd closed

/-- The files are seeded as planned, under the numbers that they were opened with. -/
theorem carriesOut_of_inTurn (inTurn : InTurn FileSeeded paths result asked) :
    ∃ numbers : List Descriptor, numbers.length = paths.length ∧
      asked.filterMap Asked.opened? <+: numbers ∧
      (result = .ok () → asked.filterMap Asked.opened? = numbers) ∧
        CarriesOut (List.zipWith fileProgram paths numbers).flatten result asked := by
  induction inTurn with
  | done => exact ⟨[], rfl, List.prefix_rfl, fun _ => rfl, [], .nil, fun _ => rfl⟩
  | @stops path rest error asked failed =>
      have ⟨fd, openings, _, carries⟩ := failed.carriesOut
      refine ⟨fd :: List.replicate rest.length 0, by simp, ?_, nofun, Begins.append_right carries⟩
      exact openings.trans ⟨_, rfl⟩
  | @goes path rest result first more worked _ ih =>
      have ⟨fd, _, here, carries⟩ := worked.carriesOut
      have ⟨numbers, size, openings, all, later⟩ := ih
      refine ⟨fd :: numbers, by simp [size], ?_, fun works => ?_, ?_⟩
      · rw [List.filterMap_append, here rfl]
        exact (List.prefix_cons_inj fd).2 openings
      · rw [List.filterMap_append, here rfl, all works]
        rfl
      · cases result with
        | ok => exact Completes.append carries later
        | error => exact Completes.begins_append carries later

theorem Cleared.carriesOut (gone : Cleared path result asked) :
    CarriesOut [.leftover path] result asked := by
  cases gone with
  | @asked reply =>
      have asks : (Planned.leftover path).Asks ⟨.stale, ⟨.unlink path, reply⟩⟩ := ⟨0, rfl⟩
      cases reply with
      | ok => exact Completes.single ⟨asks, .inl trivial⟩ fun _ => rfl
      | error errno =>
          by_cases missing : errno = .enoent
          · subst missing
            exact Completes.single ⟨asks, .inr ⟨rfl, rfl⟩⟩ fun _ => rfl
          · simp only [FileSystem.removed, missing, if_false]
            exact Begins.last asks

theorem carriesOut_of_cleared (inTurn : InTurn Cleared paths result asked) :
    CarriesOut (paths.map Planned.leftover) result asked := by
  induction inTurn with
  | done => exact ⟨[], .nil, fun _ => rfl⟩
  | stops failed => exact Begins.append_right failed.carriesOut
  | @goes path rest result first more worked _ ih =>
      have here : Completes [.leftover path] first := worked.carriesOut
      cases result with
      | ok => exact here.append ih
      | error => exact here.begins_append ih

end Fixture

end CopyUp
