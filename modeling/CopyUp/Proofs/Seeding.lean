import CopyUp.Proofs.Conformity
import CopyUp.Proofs.Disk
import CopyUp.Command.Execute

/-!
# Seeding and running over a plain volume

On a plain volume seeding a directory works whatever is in it. The suite then passes, and it takes
one fixture with it, so that of a second run one scenario is skipped and all others pass again.
-/

namespace CopyUp

variable {σ Object : Type} [Kernel σ] {view : σ → Volume Object} {before : Volume Object}

def Volume.domain (volume : Volume Object) : Set Path := {path | volume.names path ≠ none}

/-! ## Seeding -/

namespace Fixture

/-- A file to be seeded is opened if it is there and made if it is not. -/
theorem works_seedOpening (mounts : Mounts view) {path : Path} (plain : ¬ path.HasNul) :
    (FileSystem.issue .acquire (.openFile path seedFlags)).Works view before fun fd between =>
      (∃ handle, between.handles fd = some handle) ∧
        between.domain = insert path before.domain := by
  apply FileSystem.works_issue mounts .acquire (by simpa [Call.paths] using plain)
  intro reply between serves
  cases there : before.names path with
  | some object =>
      obtain ⟨fd, rfl, rfl⟩ := serves.openFile_of_named there rfl
      refine ⟨fd, rfl, ⟨_, Volume.handles_hold_self ..⟩, ?_⟩
      have member : path ∈ before.domain := by simp [Volume.domain, there]
      exact (Set.insert_eq_of_mem member).symm
  | none =>
      obtain ⟨fd, object, rfl, rfl⟩ := serves.openFile_of_missing plain there (by simp [seedFlags])
        rfl
      refine ⟨fd, rfl, ⟨_, Volume.handles_hold_self ..⟩, ?_⟩
      ext other
      by_cases same : other = path
      · simp [Volume.domain, same, Volume.names_assign_self before plain]
      · simp [Volume.domain, same, Volume.names_assign_of_ne before same]

theorem works_seedFile (mounts : Mounts view) {path : Path} (plain : ¬ path.HasNul) :
    (seedFile path).Works view before fun _ left => left.domain = insert path before.domain := by
  apply FileSystem.works_withFile mounts (works_seedOpening mounts plain)
  rintro fd between ⟨⟨handle, held⟩, named⟩
  apply (FileSystem.works_writeAll mounts .seeding held .next payload).bind
  rintro _ written rfl
  have sets : (FileSystem.issue .seeding (.fchmod fd mode)).Works view written fun _ left =>
      left = written := by
    apply FileSystem.works_issue mounts .seeding (by simp [Call.paths])
    intro reply left serves
    obtain ⟨same, value, told⟩ := (serves.answers_of_held held rfl rfl rfl).alteredThrough_ok rfl
    exact ⟨value, told, same⟩
  apply sets.bind
  rintro _ _ rfl
  exact .log ⟨⟨handle, held⟩, named⟩

theorem works_seedFiles (mounts : Mounts view) {paths : List Path}
    (plain : ∀ path ∈ paths, ¬ path.HasNul) :
    (paths.forM seedFile).Works view before fun _ left =>
      left.domain = before.domain ∪ {path | path ∈ paths} := by
  induction paths generalizing before with
  | nil => exact .pure (by simp)
  | cons path rest ih =>
      rw [List.forM_eq_forM, List.forM_cons]
      apply (works_seedFile mounts (plain path List.mem_cons_self)).bind
      intro _ between named
      apply (ih fun later member => plain later (List.mem_cons_of_mem _ member)).mono
      intro _ left seeded
      rw [seeded, named]
      ext other
      simp [or_assoc, or_comm, or_left_comm]

theorem works_removeStale (mounts : Mounts view) {path : Path} (plain : ¬ path.HasNul) :
    (FileSystem.removeStale path).Works view before fun _ left =>
      left.domain = before.domain \ {path} := by
  apply (FileSystem.asksOnce_removeStale plain).works mounts
  intro reply left serves
  obtain ⟨rfl | ⟨rfl, _⟩, _, names⟩ := Scenario.removed_of_serves plain serves
  all_goals
    refine ⟨(), rfl, ?_⟩
    ext other
    simp only [Volume.domain, names]
    by_cases same : other = path <;> simp [same, Function.update_apply]

theorem works_removeLeftovers (mounts : Mounts view) {names : List String} {base : Path}
    (plain : ∀ name ∈ names, ¬ (base.join name).HasNul) :
    (names.forM fun name => FileSystem.removeStale (base.join name)).Works view before
      fun _ left => left.domain = before.domain \ {path | path ∈ names.map base.join} := by
  induction names generalizing before with
  | nil => exact .pure (by simp)
  | cons name rest ih =>
      rw [List.forM_eq_forM, List.forM_cons]
      apply (works_removeStale mounts (plain name List.mem_cons_self)).bind
      intro _ between gone
      apply (ih fun later member => plain later (List.mem_cons_of_mem _ member)).mono
      intro _ left removed
      rw [removed, gone]
      ext other
      simp [and_assoc, not_or]

/-- Seeding works whatever is there, and leaves the fixtures behind in place of the leftovers. -/
theorem works_seed (mounts : Mounts view) {base : Path} (clean : ¬ base.HasNul) :
    (seed base).Works view before fun written left => written = names.map base.join ∧
      left.domain = (before.domain ∪ {path | path ∈ names.map base.join}) \
        {path | path ∈ leftovers.map base.join} := by
  have seeded : ∀ path ∈ names.map base.join, ¬ path.HasNul := by
    have plain : ∀ name ∈ names, ¬ Path.HasNul name := by decide
    intro path member
    obtain ⟨name, among, rfl⟩ := List.mem_map.1 member
    exact Path.not_hasNul_join clean (plain name among)
  have removed : ∀ name ∈ leftovers, ¬ (base.join name).HasNul := by
    have plain : ∀ name ∈ leftovers, ¬ Path.HasNul name := by decide
    exact fun name member => Path.not_hasNul_join clean (plain name member)
  unfold seed
  apply (works_seedFiles mounts seeded).bind
  intro _ between named
  apply (works_removeLeftovers mounts removed).bind
  intro _ left gone
  exact .after_log (.pure ⟨rfl, by rw [gone, named]⟩)

end Fixture

/-! ## Scenarios in a suite -/

namespace Suite

open Scenario (cleared without)

omit [Kernel σ] in
theorem value_runScenario (site : Site) (scenario : Scenario σ) (kernel : σ) :
    ((runScenario site scenario).run kernel).value =
        Outcome.ofResult ((scenario.run site).exec kernel).value ∧
      ((runScenario site scenario).run kernel).state = ((scenario.run site).exec kernel).state :=
  ⟨rfl, rfl⟩

omit [Kernel σ] in
/-- What does not fail does not stop the suite. -/
theorem runScenarios_cons {site : Site} {scenario : Scenario σ} (rest : List (Scenario σ))
    {kernel : σ} (goes : ((runScenario site scenario).run kernel).value.isFailed = false) :
    let first := (runScenario site scenario).run kernel
    let ran := (runScenarios site (scenario :: rest)).run kernel
    ran.value = (scenario.name, first.value) ::
        ((runScenarios site rest).run first.state).value ∧
      ran.state = ((runScenarios site rest).run first.state).state := by
  simp [runScenarios, goes]

/-- What a trigger comes to on a plain volume. -/
def verdict (base : Path) (names : Path → Option Object) (trigger : Trigger) : Outcome :=
  if (names (base.join trigger.fixture)).isSome then .passed
  else .skipped (.fixtureMissing trigger.fixture)

/-- The paths that a trigger takes away on a plain volume. -/
def taken (base : Path) (names : Path → Option Object) (trigger : Trigger) : List Path :=
  if (names (base.join trigger.fixture)).isSome then cleared base trigger else []

theorem verdict_congr {base : Path} {first second : Path → Option Object} {trigger : Trigger}
    (same : first (base.join trigger.fixture) = second (base.join trigger.fixture)) :
    verdict base first trigger = verdict base second trigger := by
  rw [verdict, verdict, same]

theorem taken_congr {base : Path} {first second : Path → Option Object} {trigger : Trigger}
    (same : first (base.join trigger.fixture) = second (base.join trigger.fixture)) :
    taken base first trigger = taken base second trigger := by
  rw [taken, taken, same]

theorem runScenario_ofTrigger (mounts : Mounts view) (site : Site) (clean : ¬ site.base.HasNul)
    (trigger : Trigger) (kernel : σ) :
    ((runScenario site (.ofTrigger trigger)).run kernel).value =
        verdict site.base (view kernel).names trigger ∧
      (view ((runScenario site (.ofTrigger trigger)).run kernel).state).names =
        without (view kernel).names (taken site.base (view kernel).names trigger) := by
  obtain ⟨value, state⟩ := value_runScenario site (.ofTrigger trigger) kernel
  rw [value, state]
  cases there : (view kernel).names (site.base.join trigger.fixture) with
  | some object =>
      obtain ⟨⟨⟩, ran, names⟩ :=
        Scenario.works_exercise mounts trigger site.privileges there kernel rfl
      have passed : verdict site.base (view kernel).names trigger = .passed := by
        simp [verdict, there]
      have takes : taken site.base (view kernel).names trigger = cleared site.base trigger := by
        simp [taken, there]
      rw [passed, takes, ← Scenario.effects_steps, ← names]
      exact ⟨congrArg Outcome.ofResult ran, rfl⟩
  | none =>
      obtain ⟨ran, same⟩ := Scenario.exercise_of_missing mounts trigger site.privileges clean there
      have skipped : verdict site.base (view kernel).names trigger =
          .skipped (.fixtureMissing trigger.fixture) := by simp [verdict, there]
      have takes : taken site.base (view kernel).names trigger = [] := by simp [taken, there]
      rw [skipped, takes]
      exact ⟨congrArg Outcome.ofResult ran, (congrArg Volume.names same).trans rfl⟩

theorem without_without (names : Path → Option Object) (first second : List Path) :
    without (without names first) second = without names (first ++ second) := by
  funext path
  by_cases gone : path ∈ first <;> by_cases later : path ∈ second <;>
    simp [without, gone, later]

/-- No trigger takes away the fixture of another. -/
theorem fixture_not_mem_cleared (base : Path) {trigger other : Trigger}
    (differs : other ≠ trigger) : base.join other.fixture ∉ cleared base trigger := by
  have kept : other.fixture ∉ (Scenario.leftovers trigger ++ Scenario.vacancies trigger).map
      (Scenario.Role.fileName trigger) := by
    cases trigger <;> cases other <;> first | contradiction | decide
  intro member
  obtain ⟨role, among, same⟩ := List.mem_map.1 member
  apply kept
  have alike := Path.join_injective (Scenario.Role.not_isAbsolute_fileName trigger role)
    (Scenario.Role.not_isAbsolute_fileName other .fixture) same
  exact List.mem_map.2 ⟨role, among, alike⟩

theorem mem_cleared_of_mem_taken {base : Path} {names : Path → Option Object} {trigger : Trigger}
    {path : Path} (member : path ∈ taken base names trigger) : path ∈ cleared base trigger := by
  unfold taken at member
  split at member
  · exact member
  · contradiction

/-- What a trigger does is of no consequence to another. -/
theorem names_without_taken (base : Path) (names : Path → Option Object) {trigger other : Trigger}
    (differs : other ≠ trigger) :
    without names (taken base names trigger) (base.join other.fixture) =
      names (base.join other.fixture) := by
  apply if_neg
  exact fun member => fixture_not_mem_cleared base differs (mem_cleared_of_mem_taken member)

theorem runScenarios_ofTriggers (mounts : Mounts view) (site : Site)
    (clean : ¬ site.base.HasNul) {triggers : List Trigger} (distinct : triggers.Nodup)
    (kernel : σ) :
    let ran := (runScenarios site (triggers.map .ofTrigger)).run kernel
    let names := (view kernel).names
    ran.value = triggers.map (fun trigger =>
        (trigger.scenarioName, verdict site.base names trigger)) ∧
      (view ran.state).names = without names (triggers.flatMap (taken site.base names)) := by
  induction triggers generalizing kernel with
  | nil => exact ⟨rfl, rfl⟩
  | cons trigger rest ih =>
      obtain ⟨fresh, others⟩ := List.nodup_cons.1 distinct
      obtain ⟨value, names⟩ := runScenario_ofTrigger mounts site clean trigger kernel
      have goes : ((runScenario site (.ofTrigger trigger)).run kernel).value.isFailed = false := by
        rw [value]
        unfold verdict
        split <;> rfl
      obtain ⟨results, state⟩ := runScenarios_cons (rest.map .ofTrigger) goes
      obtain ⟨verdicts, left⟩ :=
        ih others ((runScenario site (.ofTrigger trigger)).run kernel).state
      -- the fixtures of the others are where they were, so each gets the verdict of the start
      let between := without (view kernel).names (taken site.base (view kernel).names trigger)
      have unmoved : ∀ other ∈ rest, between (site.base.join other.fixture) =
          (view kernel).names (site.base.join other.fixture) :=
        fun other member => names_without_taken _ _ fun same => fresh (same ▸ member)
      have alike : rest.map (fun other => (other.scenarioName, verdict site.base between other)) =
          rest.map fun other => (other.scenarioName, verdict site.base (view kernel).names other) :=
        List.map_congr_left fun other member => by rw [verdict_congr (unmoved other member)]
      have gone : rest.flatMap (taken site.base between) =
          rest.flatMap (taken site.base (view kernel).names) :=
        List.flatMap_congr fun other member => taken_congr (unmoved other member)
      rw [names] at verdicts left
      constructor
      · rw [List.map_cons, results, verdicts, value, alike]
        rfl
      · rw [List.map_cons, state, left, gone, without_without, List.flatMap_cons]

/-! ## Whole runs -/

def conduct (host : Host) (plan : Plan) : Recorded Progress σ (Except IoError Report) := do
  match ← (standard host plan).run.mapRecord .event with
  | .ok suite => .ok <$> suite.run
  | .error error => pure (.error error)

theorem works_canonical (mounts : Mounts view) {base : Path} (clean : ¬ base.HasNul)
    (canonical : ∀ kernel : σ, (Kernel.answer (.realpath base) kernel).1 = .ok base) :
    (Site.canonical base).Works view before fun path left => left = before ∧ path = base := by
  rintro kernel rfl
  have plain : ∀ path ∈ (Call.realpath base).paths, ¬ path.HasNul := by
    simpa [Call.paths] using clean
  obtain ⟨value, state, _⟩ :=
    FileSystem.asksOnce_issue (σ := σ) .canonicalForm plain (by simp [Call.restarts]) kernel
  rw [canonical] at value
  have serves := mounts.serves (.realpath base) kernel
  have own : ¬ (view kernel).Foreign (.realpath base) := Serves.own_of_path clean rfl rfl rfl
  refine ⟨base, value, ?_, rfl⟩
  rw [Site.canonical, state]
  exact serves.realpath_eq own

/-- The plan of a run without the listing check. -/
def unlisted (base : Path) : Plan := { base, enumeration := false }

theorem works_standard (mounts : Mounts view) (host : Host) {base : Path} (clean : ¬ base.HasNul)
    (canonical : ∀ kernel : σ, (Kernel.answer (.realpath base) kernel).1 = .ok base) :
    (standard host (unlisted base)).Works view before fun suite left => left = before ∧
      suite = ⟨⟨unlisted base, .ofHost host, host.descriptorLimit⟩,
        Trigger.all.map Scenario.ofTrigger⟩ := by
  have prepared : (Site.prepare host (unlisted base)).Works view before fun site left =>
      left = before ∧ site = ⟨unlisted base, .ofHost host, host.descriptorLimit⟩ := by
    apply (works_canonical mounts clean canonical).bind
    rintro _ _ ⟨rfl, rfl⟩
    exact .after_log (.pure ⟨rfl, rfl⟩)
  apply prepared.bind
  rintro _ _ ⟨rfl, rfl⟩
  exact .pure ⟨rfl, rfl⟩

theorem conduct_of_ok {host : Host} {plan : Plan} {kernel : σ} {suite : Suite σ}
    (built : ((standard host plan).exec kernel).value = .ok suite) :
    let ran := suite.run.run ((standard host plan).exec kernel).state
    ((conduct host plan).run kernel).value = .ok ran.value ∧
      ((conduct host plan).run kernel).state = ran.state := by
  have value : ((Recorded.mapRecord Progress.event (standard host plan).run).run kernel).value =
      .ok suite := built
  unfold conduct
  rw [Recorded.value_bind, Recorded.state_bind, value]
  exact ⟨rfl, rfl⟩

omit [Kernel σ] in
/-- A suite reports the outcomes of its scenarios. -/
theorem value_run (suite : Suite σ) (kernel : σ) :
    let ran := (runScenarios suite.site suite.scenarios).run kernel
    (suite.run.run kernel).value = ⟨suite.scenarios.length, ran.value⟩ ∧
      (suite.run.run kernel).state = ran.state :=
  ⟨rfl, rfl⟩

/-- Over a plain volume every trigger gets its verdict, and only what it takes away is gone. -/
theorem conduct_of_mounts (mounts : Mounts view) (host : Host) {base : Path}
    (clean : ¬ base.HasNul)
    (canonical : ∀ kernel : σ, (Kernel.answer (.realpath base) kernel).1 = .ok base) (kernel : σ) :
    let ran := (conduct host (unlisted base)).run kernel
    let names := (view kernel).names
    ran.value = .ok ⟨9, Trigger.all.map fun trigger =>
        (trigger.scenarioName, verdict base names trigger)⟩ ∧
      (view ran.state).names = without names (Trigger.all.flatMap (taken base names)) := by
  obtain ⟨suite, built, same, rfl⟩ := works_standard mounts host clean canonical kernel rfl
  obtain ⟨value, state⟩ := conduct_of_ok built
  let site : Site := ⟨unlisted base, .ofHost host, host.descriptorLimit⟩
  obtain ⟨results, names⟩ := runScenarios_ofTriggers mounts site clean
    (show Trigger.all.Nodup by decide) ((standard host (unlisted base)).exec kernel).state
  rw [same] at results names
  obtain ⟨report, left⟩ := value_run ⟨site, Trigger.all.map Scenario.ofTrigger⟩
    ((standard host (unlisted base)).exec kernel).state
  constructor
  · rw [value, report, results]
    rfl
  · rw [state, left]
    exact names

/-! ## A first and a second run -/

theorem without_eq_self {names : Path → Option Object} {gone : List Path}
    (missing : ∀ path ∈ gone, names path = none) : without names gone = names := by
  funext path
  by_cases member : path ∈ gone
  · simp [without, member, missing path member]
  · simp [without, member]

/-- The names that a first run takes away from a seeded directory. -/
def spent : List String := Trigger.rename.fixture :: Fixture.leftovers

theorem mem_spent_iff (trigger : Trigger) : trigger.fixture ∈ spent ↔ trigger = .rename := by
  cases trigger <;> decide

/-- The names that the triggers take away are the spent ones. -/
theorem mem_cleared_iff {base path : Path} :
    path ∈ Trigger.all.flatMap (cleared base) ↔ path ∈ spent.map base.join := by
  simp only [Trigger.all, List.flatMap_cons, List.flatMap_nil, cleared, Scenario.leftovers,
    Scenario.vacancies, Scenario.rolePath, Scenario.Role.fileName, spent, Fixture.leftovers,
    List.cons_append, List.nil_append, List.append_nil, List.map_cons, List.map_nil,
    List.mem_cons, List.not_mem_nil, or_false]
  constructor
  · rintro (same | same | same | same | same) <;> simp only [same, true_or, or_true]
  · rintro (same | same | same | same) <;> simp only [same, true_or, or_true]

theorem join_mem_map_iff {base : Path} {name : String} {names : List String}
    (relative : ¬ Path.IsAbsolute name) (all : ∀ other ∈ names, ¬ Path.IsAbsolute other) :
    base.join name ∈ names.map base.join ↔ name ∈ names := by
  constructor
  · intro member
    obtain ⟨other, among, same⟩ := List.mem_map.1 member
    exact Path.join_injective (all other among) relative same ▸ among
  · exact List.mem_map_of_mem

theorem not_isAbsolute_fixture (trigger : Trigger) : ¬ Path.IsAbsolute trigger.fixture :=
  Scenario.Role.not_isAbsolute_fileName trigger .fixture

theorem not_isAbsolute_of_mem_spent : ∀ name ∈ spent, ¬ Path.IsAbsolute name := by
  decide

/-- The fixtures are seeded and are no leftovers. -/
theorem fixture_seeded (trigger : Trigger) :
    trigger.fixture ∈ Fixture.names ∧ trigger.fixture ∉ Fixture.leftovers := by
  cases trigger <;> decide

theorem domain_without {volume other : Volume Object} {gone : List Path}
    (same : other.names = without volume.names gone) :
    other.domain = volume.domain \ {path | path ∈ gone} := by
  ext path
  by_cases member : path ∈ gone <;> simp [Volume.domain, same, without, member]

/-- In a seeded directory every trigger finds its fixture. -/
theorem fixture_of_seeded {base : Path} {seeded : Volume Object} {names : Set Path}
    (domain : seeded.domain = (names ∪ {path | path ∈ Fixture.names.map base.join}) \
      {path | path ∈ Fixture.leftovers.map base.join}) (trigger : Trigger) :
    (seeded.names (base.join trigger.fixture)).isSome := by
  obtain ⟨written, kept⟩ := fixture_seeded trigger
  have relative : ∀ name ∈ Fixture.leftovers, ¬ Path.IsAbsolute name :=
    fun name member => not_isAbsolute_of_mem_spent name (List.mem_cons_of_mem _ member)
  have here : base.join trigger.fixture ∈ seeded.domain := by
    rw [domain]
    refine ⟨.inr (List.mem_map_of_mem written), fun gone => kept ?_⟩
    exact (join_mem_map_iff (not_isAbsolute_fixture trigger) relative).1 gone
  exact Option.isSome_iff_ne_none.2 here

/-- Seeding a directory of a plain volume works whatever is in it, the suite passes then, and only
the fixture of the rename trigger is gone with the leftovers; so a second run skips this trigger,
passes all others and changes nothing. -/
theorem seeded_suite_passes (mounts : Mounts view) (host : Host) {base : Path}
    (clean : ¬ base.HasNul)
    (canonical : ∀ kernel : σ, (Kernel.answer (.realpath base) kernel).1 = .ok base) (kernel : σ) :
    let seeded := (Fixture.seed base).exec kernel
    let first := (conduct host (unlisted base)).run seeded.state
    let second := (conduct host (unlisted base)).run first.state
    let passing : Report := ⟨9, Trigger.all.map fun trigger => (trigger.scenarioName, .passed)⟩
    let repeated : Report := ⟨9, Trigger.all.map fun trigger => (trigger.scenarioName,
      if trigger = .rename then .skipped (.fixtureMissing trigger.fixture) else .passed)⟩
    seeded.value = .ok (Fixture.names.map base.join) ∧
      (first.value = .ok passing ∧ passing.exitCode = 0 ∧
        (view first.state).domain =
          ((view kernel).domain ∪ {path | path ∈ Fixture.names.map base.join}) \
            {path | path ∈ spent.map base.join}) ∧
      second.value = .ok repeated ∧ repeated.exitCode = 0 ∧
        (view second.state).names = (view first.state).names := by
  intro seeded first second passing repeated
  obtain ⟨_, seeds, rfl, domain⟩ := Fixture.works_seed mounts clean kernel rfl
  obtain ⟨firstValue, firstNames⟩ := conduct_of_mounts mounts host clean canonical seeded.state
  obtain ⟨secondValue, secondNames⟩ := conduct_of_mounts mounts host clean canonical first.state
  have there := fixture_of_seeded domain
  have left : (view first.state).names =
      without (view seeded.state).names (Trigger.all.flatMap (cleared base)) := by
    rw [firstNames]
    congr 1
    apply List.flatMap_congr
    intro trigger _
    rw [taken, if_pos (there trigger)]
  have still : ∀ trigger : Trigger,
      ((view first.state).names (base.join trigger.fixture)).isSome ↔ trigger ≠ .rename := by
    intro trigger
    have relative := not_isAbsolute_fixture trigger
    have gone : base.join trigger.fixture ∈ Trigger.all.flatMap (cleared base) ↔
        trigger = .rename := by
      rw [mem_cleared_iff, join_mem_map_iff relative not_isAbsolute_of_mem_spent, mem_spent_iff]
    rw [left, without]
    by_cases rename : trigger = .rename
    · rw [if_pos (gone.2 rename)]
      simp [rename]
    · rw [if_neg (rename ∘ gone.1)]
      exact iff_of_true (there trigger) rename
  have passes : ∀ trigger, verdict base (view seeded.state).names trigger = .passed :=
    fun trigger => if_pos (there trigger)
  have repeats : ∀ trigger, verdict base (view first.state).names trigger =
      if trigger = .rename then .skipped (.fixtureMissing trigger.fixture) else .passed := by
    intro trigger
    rw [verdict, if_congr (still trigger) rfl rfl, ite_not]
  have remains : (view first.state).domain =
      ((view kernel).domain ∪ {path | path ∈ Fixture.names.map base.join}) \
        {path | path ∈ spent.map base.join} := by
    rw [domain_without left, domain, sdiff_sdiff]
    congr 1
    ext path
    have leftover : path ∈ Fixture.leftovers.map base.join →
        path ∈ Trigger.all.flatMap (cleared base) :=
      fun member => mem_cleared_iff.2 (List.mem_cons_of_mem _ member)
    exact (or_iff_right_of_imp leftover).trans mem_cleared_iff
  have unchanged : (view second.state).names = (view first.state).names := by
    rw [secondNames]
    apply without_eq_self
    intro path member
    obtain ⟨trigger, _, takes⟩ := List.mem_flatMap.1 member
    rw [left]
    apply if_pos
    exact List.mem_flatMap.2 ⟨trigger, trigger.mem_all, mem_cleared_of_mem_taken takes⟩
  simp only [passes] at firstValue
  simp only [repeats] at secondValue
  exact ⟨seeds, ⟨firstValue, by decide, remains⟩, secondValue, by decide, unchanged⟩

/-- A disk on which a fixture shares its object with two leftovers. -/
theorem littered_disk_passes :
    let disk := ((Disk.blank.assign "/lower/copyup_link_test.txt" 0).assign
      "/lower/copyup_link_test_hardlink.txt" 0).assign "/lower/copyup_rename_test_renamed.txt" 0
    let seeded := (Fixture.seed "/lower").exec disk
    let first := (conduct {} (unlisted "/lower")).run seeded.state
    let second := (conduct {} (unlisted "/lower")).run first.state
    Mounts Disk.volume ∧ ¬ Path.HasNul "/lower" ∧
      (∀ disk : Disk, (Kernel.answer (.realpath "/lower") disk).1 = .ok "/lower") ∧
      first.value = .ok ⟨9, Trigger.all.map fun trigger => (trigger.scenarioName, .passed)⟩ ∧
      second.value = .ok ⟨9, Trigger.all.map fun trigger => (trigger.scenarioName,
        if trigger = .rename then .skipped (.fixtureMissing trigger.fixture) else .passed)⟩ := by
  intro disk seeded first second
  have clean : ¬ Path.HasNul "/lower" := by decide
  have canonical : ∀ disk : Disk, (Kernel.answer (.realpath "/lower") disk).1 = .ok "/lower" :=
    fun _ => rfl
  obtain ⟨_, ⟨passed, _⟩, again, _⟩ := seeded_suite_passes Disk.mounts {} clean canonical disk
  exact ⟨Disk.mounts, clean, canonical, passed, again⟩

end Suite

end CopyUp
