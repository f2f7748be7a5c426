import CopyUp.Kernel.Script
import CopyUp.Proofs.Composition

/-!
# The selection of triggers

A plan may name the triggers to run. It is read as a set: the catalog fixes the order, and a trigger
that is named twice runs once. So two plans that name the same triggers lead to the same suite and
to the same run, call by call.
-/

namespace CopyUp

/-! ## Plans -/

namespace Plan

variable {plan : Plan} {other : List Trigger}

theorem mem_selected {trigger : Trigger} :
    trigger ∈ plan.selected ↔ plan.only = [] ∨ trigger ∈ plan.only := by
  simp [selected, trigger.mem_all]

theorem selected_sublist (plan : Plan) : plan.selected.Sublist Trigger.all :=
  List.filter_sublist

theorem selected_eq_all (all : plan.only = [] ∨ ∀ trigger, trigger ∈ plan.only) :
    plan.selected = Trigger.all := by
  apply List.filter_eq_self.2
  intro trigger _
  exact decide_eq_true (all.imp_right fun each => each trigger)

theorem selected_congr (same : ∀ trigger, trigger ∈ plan.only ↔ trigger ∈ other) :
    { plan with only := other }.selected = plan.selected := by
  have none : other = [] ↔ plan.only = [] := by
    simp only [List.eq_nil_iff_forall_not_mem, same]
  apply List.filter_congr
  intro trigger _
  simp only [none, same]

end Plan

namespace Suite

variable {σ : Type}

/-! ## Sites that differ in the selection only -/

/-- Scenarios run alike where each of them does. -/
theorem runScenarios_congr {first second : Site} {scenarios : List (Scenario σ)}
    (same : ∀ scenario ∈ scenarios, scenario.run first = scenario.run second) :
    runScenarios first scenarios = runScenarios second scenarios := by
  induction scenarios with
  | nil => rfl
  | cons scenario rest ih =>
      have later := ih fun other member => same other (List.mem_cons_of_mem _ member)
      have now : runScenario first scenario = runScenario second scenario := by
        unfold runScenario
        rw [same scenario List.mem_cons_self]
      unfold runScenarios
      rw [now, later]

variable [Kernel σ] {plan : Plan} {other : List Trigger}

/-- The triggers that a plan names do not matter for its site. -/
theorem prepare_only (host : Host) (plan : Plan) (other : List Trigger) :
    Site.prepare (σ := σ) host { plan with only := other } =
      (fun site => { site with plan := { site.plan with only := other } }) <$>
        Site.prepare host plan := by
  simp [Site.prepare]

/-- No scenario of the catalog looks at the selection. -/
theorem run_only {scenario : Scenario σ} (member : scenario ∈ catalog plan) (site : Site) :
    scenario.run { site with plan := { site.plan with only := other } } = scenario.run site := by
  rcases List.mem_append.1 member with selected | listing
  · obtain ⟨trigger, _, rfl⟩ := List.mem_map.1 selected
    rfl
  · by_cases wanted : plan.enumeration
    · simp only [wanted, if_true, List.mem_singleton] at listing
      rw [listing]
      rfl
    · simp [wanted] at listing

theorem run_catalog_only (plan : Plan) (other : List Trigger) (site : Site) :
    Suite.run (σ := σ) ⟨{ site with plan := { site.plan with only := other } }, catalog plan⟩ =
      Suite.run ⟨site, catalog plan⟩ := by
  have same : ∀ scenario ∈ catalog (σ := σ) plan,
      scenario.run { site with plan := { site.plan with only := other } } = scenario.run site :=
    fun _ member => run_only member site
  unfold Suite.run
  rw [runScenarios_congr same]
  rfl

theorem catalog_only (same : { plan with only := other }.selected = plan.selected) :
    catalog (σ := σ) { plan with only := other } = catalog plan := by
  unfold catalog
  rw [same]

/-- A run depends on the selection only through the triggers that are selected. -/
theorem conduct_only (host : Host) (same : { plan with only := other }.selected = plan.selected) :
    conduct (σ := σ) host { plan with only := other } = conduct host plan := by
  rw [conduct_eq, conduct_eq, prepare_only, catalog_only same, Recorded.mapRecord_map_bind]
  refine bind_congr fun result => ?_
  cases result with
  | error => rfl
  | ok site => exact congrArg (Except.ok <$> ·) (run_catalog_only plan other site)

/-! ## Schedules -/

/-- The suite of a plan: the chosen triggers, each once and in the order of the catalog, and the
listing check behind them if it is wanted. -/
structure Schedules (plan : Plan) (chosen : List Trigger) (suite : Suite σ) : Prop where
  ordered : chosen.Sublist Trigger.all
  once : chosen.Nodup
  mem_iff : ∀ trigger, trigger ∈ chosen ↔ plan.only = [] ∨ trigger ∈ plan.only
  full : (plan.only = [] ∨ ∀ trigger, trigger ∈ plan.only) → chosen = Trigger.all
  scenarios : suite.scenarios =
    chosen.map Scenario.ofTrigger ++ if plan.enumeration then [Scenario.enumeration] else []
  listed_iff : Scenario.Enumeration.name ∈ suite.names ↔ plan.enumeration

theorem scenarioName_ne (trigger : Trigger) : trigger.scenarioName ≠ Scenario.Enumeration.name := by
  cases trigger <;> decide

theorem schedules_catalog (plan : Plan) (site : Site) :
    Schedules (σ := σ) plan plan.selected ⟨site, catalog plan⟩ where
  ordered := plan.selected_sublist
  once := plan.selected_sublist.nodup (by decide)
  mem_iff _ := Plan.mem_selected
  full := Plan.selected_eq_all
  scenarios := rfl
  listed_iff := by
    by_cases wanted : plan.enumeration
    · simp [names, catalog, wanted, Scenario.enumeration]
    · simp [names, catalog, wanted, Scenario.ofTrigger, scenarioName_ne]

theorem names_standard (host : Host) (plan : Plan) (kernel : σ) :
    names <$> ((standard host plan).exec kernel).value =
      (fun _ => (catalog (σ := σ) plan).map Scenario.name) <$>
        ((Site.prepare host plan).exec kernel).value := by
  rw [standard_eq, Attempt.exec_map]
  cases ((Site.prepare host plan).exec kernel).value <;> rfl

/-- Two plans that name the same triggers, in whatever order and however often, lead to scenarios of
the same names and to the same run. What runs is chosen from the catalog in its own order; to name
no trigger is to name all of them. -/
theorem only_read_as_set (host : Host) (plan : Plan) {other : List Trigger}
    (same : ∀ trigger, trigger ∈ plan.only ↔ trigger ∈ other) :
    conduct (σ := σ) host { plan with only := other } = conduct host plan ∧
    (∀ kernel : σ, names <$> ((standard host { plan with only := other }).exec kernel).value =
      names <$> ((standard host plan).exec kernel).value) ∧
    ((∀ trigger, trigger ∈ plan.only) →
      conduct (σ := σ) host { plan with only := [] } = conduct host plan) ∧
    ∃ chosen, ∀ (kernel : σ) (suite : Suite σ),
      ((standard host plan).exec kernel).value = .ok suite → Schedules plan chosen suite := by
  have selected := Plan.selected_congr same
  refine ⟨conduct_only host selected, fun kernel => ?_, fun all => ?_, plan.selected, ?_⟩
  · rw [names_standard, names_standard, catalog_only selected, prepare_only, Attempt.exec_map]
    cases ((Site.prepare host plan).exec kernel).value <;> rfl
  · apply conduct_only
    rw [Plan.selected_eq_all (.inr all)]
    exact Plan.selected_eq_all (.inl rfl)
  · intro kernel suite built
    obtain ⟨site, rfl⟩ := exists_site_of_standard built
    exact schedules_catalog plan site

/-- Two triggers, one of them named twice and neither in its place. -/
theorem reversed_pair_read_as_set :
    let plan : Plan := { base := "/lower", only := [.rename, .contentWrite, .rename] }
    let other : List Trigger := [.contentWrite, .rename]
    (∀ trigger, trigger ∈ plan.only ↔ trigger ∈ other) ∧
    conduct (σ := Script) {} { plan with only := other } = conduct {} plan ∧
    names <$> ((standard (σ := Script) {} plan).exec ⟨[], 1000⟩).value =
      .ok ["copyup-write", "copyup-rename", "getdents64"] := by
  intro plan other
  have same : ∀ trigger, trigger ∈ plan.only ↔ trigger ∈ other := by
    intro trigger
    cases trigger <;> decide
  exact ⟨same, (only_read_as_set {} plan same).1, by decide +kernel⟩

end Suite

end CopyUp
