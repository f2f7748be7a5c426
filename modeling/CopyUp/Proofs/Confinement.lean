import CopyUp.Kernel.Script
import CopyUp.Proofs.Composition
import CopyUp.Proofs.Restraint

/-!
# Scenarios keep to their own files

The scenario of a trigger names its fixture and the files that it makes itself, and works through
no open file but one of these. No two triggers share a file, whatever the directory is called, so
that no scenario can spoil another one's fixture. The listing check only looks. With directories in
absolute form no call of a suite depends on the working directory.
-/

namespace CopyUp

/-! ## The files of a trigger -/

namespace Trigger

/-- The names that the scenario of a trigger may use: the fixture, and what is made beside it. -/
def files (trigger : Trigger) : List String :=
  trigger.fixture ::
    match trigger with
    | rename => [Fixture.renameTarget]
    | linkCreation => [Fixture.hardlink, Fixture.secondHardlink]
    | _ => []

def paths (base : Path) (trigger : Trigger) : List Path := trigger.files.map base.join

theorem fixture_mem_files (trigger : Trigger) : trigger.fixture ∈ trigger.files :=
  List.mem_cons_self

theorem not_isAbsolute_of_mem_files {trigger : Trigger} :
    ∀ name ∈ trigger.files, ¬ Path.IsAbsolute name := by
  cases trigger <;> decide

theorem disjoint_files {first second : Trigger} (different : first ≠ second) :
    first.files.Disjoint second.files := by
  have apart : ∀ one ∈ all, ∀ other ∈ all, one ≠ other →
      ∀ name ∈ one.files, name ∉ other.files := by decide
  exact apart first first.mem_all second second.mem_all different

/-- In no directory do two triggers share a file. -/
theorem disjoint_paths (base : Path) {first second : Trigger} (different : first ≠ second) :
    (first.paths base).Disjoint (second.paths base) := by
  intro path left right
  obtain ⟨name, member, rfl⟩ := List.mem_map.1 left
  obtain ⟨other, among, same⟩ := List.mem_map.1 right
  have alike : other = name := Path.join_injective (not_isAbsolute_of_mem_files other among)
    (not_isAbsolute_of_mem_files name member) same
  exact disjoint_files different member (alike ▸ among)

end Trigger

theorem Path.isAbsolute_join {base : Path} (absolute : base.IsAbsolute) (name : String) :
    (base.join name).IsAbsolute := by
  unfold join
  by_cases whole : IsAbsolute name
  · rwa [if_pos whole]
  · rw [if_neg whole]
    unfold IsAbsolute at *
    rw [String.toList_append, String.toList_append, List.append_assoc, List.head?_append, absolute]
    rfl

namespace Scenario

/-! ## Single scenarios -/

/-- The calls name files of the trigger only, and where they change something through an open file
it is one of these, opened before and still open. -/
structure Confined (trigger : Trigger) (base : Path) (asked : List Asked) : Prop where
  names : ∀ one ∈ asked, ∀ path ∈ one.call.paths, path ∈ trigger.paths base
  through : ∀ before one after, asked = before ++ one :: after → one.call.mutates →
    ∀ fd, one.call.descriptor? = some fd → ∃ path ∈ trigger.paths base, OpenAt path fd before

theorem fileName_mem_files {trigger : Trigger} :
    ∀ step ∈ steps trigger, ∀ role ∈ step.files, role.fileName trigger ∈ trigger.files := by
  cases trigger <;> decide

variable {σ : Type} [Kernel σ]

theorem exercise_confined (trigger : Trigger) (base : Path) (privileges : Privileges)
    (kernel : σ) :
    Confined trigger base
      (Trace.asked ((exercise trigger base privileges).exec kernel).record) := by
  have own : ∀ name ∈ trigger.files, base.join name ∈ trigger.paths base := fun name member =>
    List.mem_map_of_mem member
  constructor
  · have composed := composed_exercise (σ := σ) privileges (own _ trigger.fixture_mem_files)
      fun step member role among => own _ (fileName_mem_files step member role among)
    exact composed.permits_of_asked kernel
  · intro before one after split mutates fd works
    rcases exercised_or_refused trigger base privileges kernel with exercised | ⟨_, none⟩
    · have through := exercised.through before one after split mutates fd works
      exact ⟨_, own _ trigger.fixture_mem_files, through⟩
    · simp [none] at split

/-- The listing check looks at its target and at its entry and does nothing else. -/
theorem enumeration_observes (target : Path) (entry : String) (limit : Except Errno UInt64)
    (kernel : σ) :
    ∀ one ∈ Trace.asked ((Enumeration.run target entry limit).exec kernel).record,
      one.call.Observes fun path => path = target ∨ path = target.join entry :=
  Session.Composed.permits_of_asked
    (Enumeration.composed_run limit (.inl rfl) (.inr rfl)) kernel

end Scenario

/-! ## Suites -/

namespace Suite

variable {σ : Type} [Kernel σ]

/-- Scenarios stay inside their own files, which no two triggers share, and the listing check only
looks at its own two paths. So a suite in absolute directories names absolute paths only, whatever
its entry is called. -/
theorem scenarios_stay_inside :
    (∀ trigger base privileges (kernel : σ), Scenario.Confined trigger base
      (Trace.asked ((Scenario.exercise trigger base privileges).exec kernel).record)) ∧
    (∀ base (first second : Trigger), first ≠ second →
      (first.paths base).Disjoint (second.paths base)) ∧
    (∀ target entry limit (kernel : σ),
      ∀ one ∈ Trace.asked ((Scenario.Enumeration.run target entry limit).exec kernel).record,
        one.call.Observes fun path => path = target ∨ path = target.join entry) ∧
    ∀ host plan (start kernel : σ) (suite : Suite σ),
      ((standard host plan).exec start).value = .ok suite →
      suite.site.base.IsAbsolute → (∀ directory ∈ suite.site.plan.directory, directory.IsAbsolute) →
      ∀ one ∈ Progress.asked (suite.run.run kernel).record,
        ∀ path ∈ one.call.paths, path.IsAbsolute := by
  refine ⟨Scenario.exercise_confined, fun base _ _ => Trigger.disjoint_paths base,
    Scenario.enumeration_observes, ?_⟩
  intro host plan start kernel suite built base directory
  obtain ⟨site, rfl⟩ := exists_site_of_standard built
  have target : site.plan.target.IsAbsolute := by
    unfold Plan.target
    cases given : site.plan.directory with
    | none => exact base
    | some chosen => exact directory chosen given
  have composed : (Suite.run ⟨site, catalog plan⟩).Composed (Call.Names Path.IsAbsolute) :=
    composed_run fun scenario member =>
      composed_of_mem_catalog (Path.isAbsolute_join base) target
        (Path.isAbsolute_join target _) member
  exact composed.permits_of_asked kernel

/-- Relative directories, made absolute by the kernel, and an entry without a name. -/
theorem relative_plan_stays_inside :
    let plan : Plan :=
      { base := "lower", directory := some "other", only := [.rename], entry := "" }
    let start : Script :=
      ⟨[.grant { path := some "/lower/" }, .grant { path := some "/other" }], 1000⟩
    let site : Site :=
      ⟨{ plan with base := "/lower/", directory := some "/other" }, ⟨0, true, true⟩, .ok 1024⟩
    let suite : Suite Script := ⟨site, catalog plan⟩
    let asked := Progress.asked (suite.run.run ⟨[], 1000⟩).record
    Trigger.rename ≠ .linkCreation ∧
    (Trigger.rename.paths "/lower/").Disjoint (Trigger.linkCreation.paths "/lower/") ∧
    ((standard {} plan).exec start).value = .ok suite ∧
    ∀ one ∈ asked, ∀ path ∈ one.call.paths, path.IsAbsolute := by
  intro plan start site suite asked
  have different : Trigger.rename ≠ .linkCreation := by decide
  have base : ∀ path ∈ (Call.realpath "lower").paths, ¬ path.HasNul := by decide
  have directory : ∀ path ∈ (Call.realpath "other").paths, ¬ path.HasNul := by decide
  have prepared : ((Site.prepare {} plan).exec start).value = .ok site := by
    simp only [plan, Site.prepare, Site.canonical, Site.canonical?, Attempt.exec_bind,
      Attempt.exec_map, FileSystem.exec_issue .canonicalForm base,
      FileSystem.exec_issue .canonicalForm directory]
    rfl
  have built : ((standard {} plan).exec start).value = .ok suite := by
    rw [standard_eq, Attempt.exec_map, prepared]
    rfl
  have given : ∀ directory ∈ site.plan.directory, directory.IsAbsolute := by decide
  obtain ⟨_, disjoint, _, absolute⟩ := scenarios_stay_inside (σ := Script)
  refine ⟨different, disjoint "/lower/" _ _ different, built, ?_⟩
  exact absolute {} plan start ⟨[], 1000⟩ suite built (by decide) given

end Suite

end CopyUp
