import CopyUp.Kernel.Script
import CopyUp.Proofs.SeedRecord

/-!
# What seeding leaves behind

Over any store, whatever its files hold and however they are named, the record of a seeding that
works leaves each fixture with the payload and its permission bits, takes the leftovers away, and
changes nothing else.
-/

namespace CopyUp

namespace Store

open Fixture (contents creation)

variable {store left between : Store} {path : Path} {paths : List Path}

/-- Files that hold what was seeded, under these names. A name that was there leads to the file that
it led to, other names lead where they led, and a file that no seeded name led to is as it was. -/
structure Seeds (paths : List Path) (store left : Store) : Prop where
  seeded : ∀ path ∈ paths, ∃ object, left.names path = some object ∧
    left.files object = ⟨contents, 0o644⟩
  kept : ∀ path object, store.names path = some object → left.names path = some object
  newly : ∀ path object, left.names path = some object →
    store.names path = some object ∨ store.fresh ≤ object
  others : ∀ path, path ∉ paths → left.names path = store.names path
  untouched : ∀ object, object < store.fresh → (∀ path ∈ paths, store.names path ≠ some object) →
    left.files object = store.files object
  fresh_le : store.fresh ≤ left.fresh

namespace Seeds

protected theorem nil (store : Store) : Seeds [] store store where
  seeded _ member := absurd member List.not_mem_nil
  kept _ _ named := named
  newly _ _ named := .inl named
  others _ _ := rfl
  untouched _ _ _ := rfl
  fresh_le := Nat.le_refl _

/-- One file more. If a later name leads to it as well, it is seeded once more. -/
protected theorem cons (first : Seeds [path] store between) (rest : Seeds paths between left) :
    Seeds (path :: paths) store left where
  seeded := by
    have ⟨object, named, holds⟩ := first.seeded path (List.mem_singleton_self path)
    apply List.forall_mem_cons.2 ⟨⟨object, rest.kept path object named, ?_⟩, rest.seeded⟩
    by_cases again : ∃ other ∈ paths, between.names other = some object
    · have ⟨other, member, alike⟩ := again
      have ⟨found, same, seeded⟩ := rest.seeded other member
      rw [rest.kept other object alike] at same
      cases same
      exact seeded
    · have apart : ∀ other ∈ paths, between.names other ≠ some object :=
        fun other member alike => again ⟨other, member, alike⟩
      rw [rest.untouched object (between.lt_fresh path object named) apart, holds]
  kept other object named := rest.kept other object (first.kept other object named)
  newly other object named := by
    cases rest.newly other object named with
    | inl earlier => exact first.newly other object earlier
    | inr new => exact .inr (Nat.le_trans first.fresh_le new)
  others other apart := by
    have ⟨differs, absent⟩ := not_or.1 (mt List.mem_cons.2 apart)
    rw [rest.others other absent, first.others other (mt List.mem_singleton.1 differs)]
  untouched object old apart := by
    have ⟨here, later⟩ := List.forall_mem_cons.1 apart
    have same := first.untouched object old (by simpa using here)
    have bound := Nat.lt_of_lt_of_le old first.fresh_le
    rw [rest.untouched object bound ?_, same]
    intro other member named
    cases first.newly other object named with
    | inl earlier => exact later other member earlier
    | inr new => exact Nat.not_lt.2 new old
  fresh_le := Nat.le_trans first.fresh_le rest.fresh_le

end Seeds

theorem Seeds.of_update {object : Nat}
    (names : left.names = Function.update store.names path (some object))
    (files : left.files = Function.update store.files object ⟨contents, 0o644⟩)
    (known : store.names path = some object ∨ store.names path = none ∧ object = store.fresh)
    (fresh_le : store.fresh ≤ left.fresh) : Seeds [path] store left where
  seeded := by
    refine List.forall_mem_singleton.2 ⟨object, ?_, ?_⟩
    · rw [names, Function.update_self]
    · rw [files, Function.update_self]
  kept other found named := by
    rw [names]
    by_cases same : other = path
    · subst same
      rw [Function.update_self]
      cases known with
      | inl here => rw [← here, named]
      | inr new => rw [new.1] at named; contradiction
    · rw [Function.update_of_ne same, named]
  newly other found named := by
    rw [names] at named
    by_cases same : other = path
    · subst same
      rw [Function.update_self] at named
      cases named
      cases known with
      | inl here => exact .inl here
      | inr new => exact .inr (Nat.le_of_eq new.2.symm)
    · rw [Function.update_of_ne same] at named
      exact .inl named
  others other apart := by
    rw [names, Function.update_of_ne (mt List.mem_singleton.2 apart)]
  untouched found old apart := by
    rw [files, Function.update_of_ne]
    intro same
    cases known with
    | inl here => exact apart path (List.mem_singleton_self path) (same ▸ here)
    | inr new => omega
  fresh_le := fresh_le

/-- The payload is poured into a file that was just opened and is empty. -/
theorem Seeds.of_emptied {between : Store} {object : Nat} {mode : UInt32} (fd : Descriptor)
    (names : between.names = Function.update store.names path (some object))
    (files : between.files = Function.update store.files object ⟨[], mode⟩)
    (known : store.names path = some object ∨ store.names path = none ∧ object = store.fresh)
    (fresh_le : store.fresh ≤ between.fresh) :
    Seeds [path] store
      ((((between.hold fd ⟨object, false, 0⟩).write fd .next contents).setMode fd 0o644).drop
        fd) := by
  have held : (between.hold fd ⟨object, false, 0⟩).handles fd = some ⟨object, false, 0⟩ :=
    Function.update_self ..
  rw [write_of_held held Fixture.contents_ne_nil]
  refine .of_update ?_ ?_ known ?_
  · simpa [Handle.start, Handle.moved, setMode, hold, edit, drop] using names
  · simp [Handle.start, Handle.moved, setMode, hold, edit, drop, files, Bytes.put_zero]
  · simpa [Handle.start, Handle.moved, setMode, hold, edit, drop] using fresh_le

theorem seeds_opened (store : Store) (path : Path) (fd : Descriptor) :
    Seeds [path] store
      ((((store.opened path creation fd).write fd .next contents).setMode fd 0o644).drop fd) := by
  cases named : store.names path with
  | some object =>
      have opened : store.opened path creation fd =
          (store.edit object fun file => { file with content := [] }).hold fd
            ⟨object, false, 0⟩ := by
        simp [Store.opened, named, creation]
      have same : store.names = Function.update store.names path (some object) :=
        (Function.update_eq_self_iff.2 named.symm).symm
      rw [opened]
      exact .of_emptied fd same rfl (.inl named) (Nat.le_refl _)
  | none =>
      have opened : store.opened path creation fd =
          (store.create path ⟨[], 0o644⟩).hold fd ⟨store.fresh, false, 0⟩ := by
        simp [Store.opened, named, creation]
      rw [opened]
      exact .of_emptied fd rfl rfl (.inr ⟨named, rfl⟩) (Nat.le_succ _)

structure Clears (paths : List Path) (store left : Store) : Prop where
  cleared : ∀ path ∈ paths, left.names path = none
  others : ∀ path, path ∉ paths → left.names path = store.names path
  files : left.files = store.files

theorem Clears.cons (rest : Clears paths (store.unbind path) left) :
    Clears (path :: paths) store left where
  cleared := by
    refine List.forall_mem_cons.2 ⟨?_, rest.cleared⟩
    by_cases again : path ∈ paths
    · exact rest.cleared path again
    · rw [rest.others path again]
      exact Function.update_self ..
  others other apart := by
    have ⟨differs, absent⟩ := not_or.1 (mt List.mem_cons.2 apart)
    rw [rest.others other absent]
    exact Function.update_of_ne differs ..
  files := rest.files

end Store

open Store (Seeds Clears)
open Scenario (Begins Planned)

namespace Fixture

variable {result : Except IoError Unit} {asked : List Asked} {path : Path} {paths : List Path}

/-! ## Replaying the record -/

theorem FileSeeded.seeds (course : FileSeeded path result asked) (worked : result = .ok ())
    (store : Store) : Seeds [path] store (store.replay asked) := by
  cases course with
  | notOpened | notWritten => contradiction
  | @written fd reply closed opening writing setting answered written set =>
      cases reply with
      | error => contradiction
      | ok =>
          have poured := written.taken_prefix.2 rfl
          rw [Store.replay_append, Store.replay_append, Store.replay_append,
            Store.replay_of_answered answered, Store.replay_of_written written, poured,
            Store.replay_of_answered set]
          exact Store.seeds_opened store path fd

theorem seeds_of_inTurn (inTurn : InTurn FileSeeded paths result asked) (worked : result = .ok ())
    (store : Store) : Seeds paths store (store.replay asked) := by
  induction inTurn generalizing store with
  | done => exact .nil store
  | stops => contradiction
  | goes first _ ih =>
      rw [Store.replay_append]
      exact (first.seeds rfl store).cons (ih worked _)

theorem clears_of_inTurn (inTurn : InTurn Cleared paths result asked) (worked : result = .ok ())
    (store : Store) : Clears paths store (store.replay asked) := by
  induction inTurn generalizing store with
  | done => exact ⟨nofun, fun _ _ => rfl, rfl⟩
  | stops => contradiction
  | @goes path rest result first more here _ ih =>
      have gone : store.replay first = store.unbind path := by
        generalize outcome : (Except.ok () : Except IoError Unit) = settled at here
        cases here with
        | @asked reply =>
            cases reply with
            | ok => rfl
            | error errno =>
                by_cases missing : errno = .enoent
                · exact if_pos missing
                · simp [FileSystem.removed, missing] at outcome
      rw [Store.replay_append, gone]
      exact (ih worked _).cons

/-! ## Seeding as a whole -/

theorem not_mem_cleared {directory : Path} (member : path ∈ seeded directory) :
    path ∉ cleared directory := by
  have apart : ∀ name ∈ fileNames, name ∉ formerNames := by decide
  have relative : ∀ name ∈ fileNames ++ formerNames, ¬ Path.IsAbsolute name := by decide
  have ⟨name, among, here⟩ := List.mem_map.1 member
  intro gone
  have ⟨other, removed, there⟩ := List.mem_map.1 gone
  have same := Path.join_injective (relative name (List.mem_append_left _ among))
    (relative other (List.mem_append_right _ removed)) (here.trans there.symm)
  exact apart name among (same ▸ removed)

/-- What a store looks like after a directory was seeded: every fixture is there with the payload
and its permission bits, no leftover is, other names lead where they led, and a file that no fixture
led to is as it was. -/
structure Renewed (directory : Path) (store left : Store) : Prop where
  seeded : ∀ path ∈ seeded directory, ∃ object, left.names path = some object ∧
    left.files object = ⟨contents, 0o644⟩
  cleared : ∀ path ∈ cleared directory, left.names path = none
  others : ∀ path, path ∉ Fixture.seeded directory → path ∉ Fixture.cleared directory →
    left.names path = store.names path
  untouched : ∀ object, object < store.fresh →
    (∀ path ∈ Fixture.seeded directory, store.names path ≠ some object) →
      left.files object = store.files object

theorem renewed {directory : Path} {store between left : Store}
    (seeds : Seeds (seeded directory) store between)
    (clears : Clears (cleared directory) between left) : Renewed directory store left where
  seeded path member := by
    have ⟨object, named, holds⟩ := seeds.seeded path member
    refine ⟨object, ?_, ?_⟩
    · rw [clears.others path (not_mem_cleared member), named]
    · rw [clears.files, holds]
  cleared := clears.cleared
  others path unseeded uncleared := by
    rw [clears.others path uncleared, seeds.others path unseeded]
  untouched object old apart := by rw [clears.files, seeds.untouched object old apart]

/-- What a seeding does, by its result and its record. -/
structure SeedsOrStops (directory : Path) (result : Except IoError (List Path))
    (asked : List Asked) : Prop where
  /-- Its efforts are a beginning of the program, each but the last met, or all of it. The files of
  the program have the numbers that they were opened with. -/
  program : ∃ numbers : List Descriptor, numbers.length = 10 ∧
    asked.filterMap Asked.opened? <+: numbers ∧
      Begins (program directory numbers) (efforts asked) ∧
        ∀ paths, result = .ok paths → asked.filterMap Asked.opened? = numbers ∧
          List.Forall₂ Planned.Met (program directory numbers) (efforts asked)
  /-- Each file that was opened is closed once, right after the last call through its number. The
  files are the first of those to be seeded, each given a beginning of the payload, or all of them,
  each given all of it. -/
  tended : ∃ files, Tended files asked ∧ files.map Prod.fst <+: seeded directory ∧
    (∀ file ∈ files, file.2 <+: contents) ∧
      ∀ paths, result = .ok paths → files = (seeded directory).map fun path => (path, contents)
  /-- Nothing goes wrong if it works, and otherwise its result is what goes wrong first, and only
  the file that is open then is still closed. -/
  first_fault : EndsAtFault result asked
  /-- The paths of all files are the result, in order. -/
  written : ∀ paths, result = .ok paths → paths = seeded directory
  replayed : ∀ paths, result = .ok paths → ∀ store : Store,
    Renewed directory store (store.replay asked)

section Course

variable {directory : Path} {result : Except IoError (List Path)}

theorem Seeded.program (course : Seeded directory result asked) :
    ∃ numbers : List Descriptor, numbers.length = 10 ∧
      asked.filterMap Asked.opened? <+: numbers ∧
        Begins (program directory numbers) (efforts asked) ∧
          ∀ paths, result = .ok paths → asked.filterMap Asked.opened? = numbers ∧
            List.Forall₂ Planned.Met (program directory numbers) (efforts asked) := by
  cases course with
  | halfway files =>
      have ⟨numbers, size, openings, _, carries⟩ := carriesOut_of_inTurn files
      exact ⟨numbers, size.trans (List.length_map ..), openings, Begins.append_right carries, nofun⟩
  | @throughout outcome first rest files gone =>
      have ⟨numbers, size, _, openings, carries⟩ := carriesOut_of_inTurn files
      have all : numbers.length = 10 := size.trans (List.length_map ..)
      have opened : (first ++ rest).filterMap Asked.opened? = numbers := by
        have none := List.filterMap_eq_nil_iff.2 fun one member =>
          (apart_of_cleared gone one member).1
        rw [List.filterMap_append, openings rfl, none, List.append_nil]
      have before : (first ++ rest).filterMap Asked.opened? <+: numbers :=
        ⟨[], (List.append_nil _).trans opened⟩
      have after := carriesOut_of_cleared gone
      cases outcome with
      | ok =>
          have completes := Completes.append carries after
          exact ⟨numbers, all, before, completes.begins, fun _ _ => ⟨opened, completes.efforts_met⟩⟩
      | error error => exact ⟨numbers, all, before, Completes.begins_append carries after, nofun⟩

theorem Seeded.tended (course : Seeded directory result asked) :
    ∃ files, Tended files asked ∧ files.map Prod.fst <+: seeded directory ∧
      (∀ file ∈ files, file.2 <+: contents) ∧
        ∀ paths, result = .ok paths →
          files = (seeded directory).map fun path => (path, contents) := by
  cases course with
  | halfway files =>
      have ⟨poured, tended, order, bytes, _⟩ := pours_of_inTurn files
      exact ⟨poured, tended, order, bytes, nofun⟩
  | throughout files gone =>
      have ⟨poured, tended, order, bytes, whole⟩ := pours_of_inTurn files
      have stretches := tended.append (Tended.of_apart (apart_of_cleared gone))
      rw [List.append_nil] at stretches
      exact ⟨poured, stretches, order, bytes, fun _ _ => whole rfl⟩

theorem Seeded.renewed (course : Seeded directory result asked) {paths : List Path}
    (worked : result = .ok paths) :
    paths = seeded directory ∧ ∀ store : Store, Renewed directory store (store.replay asked) := by
  cases course with
  | halfway => contradiction
  | @throughout outcome first rest files gone =>
      cases outcome with
      | error => contradiction
      | ok =>
          cases worked
          refine ⟨rfl, fun store => ?_⟩
          rw [Store.replay_append]
          exact Fixture.renewed (seeds_of_inTurn files rfl store) (clears_of_inTurn gone rfl _)

theorem Seeded.seedsOrStops (course : Seeded directory result asked) :
    SeedsOrStops directory result asked where
  program := course.program
  tended := course.tended
  first_fault := course.endsAtFault
  written _ worked := (course.renewed worked).1
  replayed _ worked := (course.renewed worked).2

end Course

/-- Over every kernel and whatever there was before, seeding a directory does all of this or stops
cleanly at the first error. -/
theorem seed_settles {σ : Type} [Kernel σ] {directory : Path} (clean : ¬ directory.HasNul)
    (kernel : σ) :
    SeedsOrStops directory ((seed directory).exec kernel).value
      (Trace.asked ((seed directory).exec kernel).record) :=
  Seeded.seedsOrStops ((ensures_seed clean).post kernel)

/-- The first file is interrupted, and written in two parts. -/
theorem seed_settles_in_parts :
    let script : Script := ⟨[.refuse .eintr, .grant {}, .grant { taken := some 7 }], 1000⟩
    let ran := (seed "lower").exec script
    ¬ Path.HasNul "lower" ∧
      ran.value = .ok ["lower/copyup_write_test.txt", "lower/copyup_truncate_test.txt",
        "lower/copyup_chmod_test.txt", "lower/copyup_chown_test.txt",
        "lower/copyup_rename_test.txt", "lower/copyup_link_test.txt",
        "lower/copyup_utimes_test.txt", "lower/copyup_xattr_test.txt",
        "lower/copyup_fallocate_test.txt", "lower/test.txt"] ∧
      (Trace.calls ran.record).take 6 = [.openFile "lower/copyup_write_test.txt" creation,
        .openFile "lower/copyup_write_test.txt" creation,
        .write 1000 (.ofText "copy-up fixture payload\n"),
        .write 1000 (.ofText " fixture payload\n"), .fchmod 1000 0o644, .close 1000] ∧
      (Trace.calls ran.record).drop 42 = [.unlink "lower/copyup_rename_test_renamed.txt",
        .unlink "lower/copyup_link_test_hardlink.txt",
        .unlink "lower/copyup_link_test_hardlink2.txt"] ∧
      SeedsOrStops "lower" ran.value (Trace.asked ran.record) :=
  ⟨by decide, by rfl, by rfl, by rfl, seed_settles (by decide) _⟩

end Fixture

end CopyUp
