import CopyUp.Scenario.Enumeration
import CopyUp.Site
import CopyUp.Suite.Progress

/-!
# Suites

A suite runs its scenarios one at a time, in order. A skipped scenario does not stop the run; the
first failed one does.
-/

namespace CopyUp

/-- A check with the name that status lines give to it. -/
structure Scenario (σ : Type) where
  name : String
  run : Site → Attempt σ Interrupt Unit

namespace Scenario

variable {σ : Type} [Kernel σ]

def ofTrigger (trigger : Trigger) : Scenario σ where
  name := trigger.scenarioName
  run site := exercise trigger site.base site.privileges

def enumeration : Scenario σ where
  name := Enumeration.name
  run site := Enumeration.run site.plan.target site.plan.entry site.descriptorLimit

end Scenario

structure Suite (σ : Type) where
  site : Site
  scenarios : List (Scenario σ)

namespace Suite

variable {σ : Type}

def names (suite : Suite σ) : List String := suite.scenarios.map Scenario.name

section Standard

variable [Kernel σ]

/-- The scenarios of a plan: the selected triggers, then the listing check if it is wanted. -/
def catalog (plan : Plan) : List (Scenario σ) :=
  plan.selected.map Scenario.ofTrigger ++ if plan.enumeration then [Scenario.enumeration] else []

def standard (host : Host) (plan : Plan) : Attempt σ IoError (Suite σ) := do
  let site ← Site.prepare host plan
  pure ⟨site, catalog plan⟩

end Standard

def notify (notice : Notice) : Recorded Progress σ Unit := Recorded.tell (.notice notice)

def log (severity : Severity) (text : String) : Recorded Progress σ Unit :=
  Recorded.tell (.event (.log ⟨severity, text⟩))

/-- Passing is worth a note, anything else a warning. -/
def outcomeSeverity (outcome : Outcome) : Severity := if outcome.isPassed then .info else .warn

/-- Runs one scenario and tells of its start and its end. -/
def runScenario (site : Site) (scenario : Scenario σ) : Recorded Progress σ Outcome := do
  notify (.started scenario.name)
  let result ← (scenario.run site).run.mapRecord .event
  let outcome := Outcome.ofResult result
  log (outcomeSeverity outcome) s!"{scenario.name}: {outcome.text}"
  notify (.finished scenario.name outcome)
  pure outcome

/-- Runs scenarios up to and including the first that fails. -/
def runScenarios (site : Site) :
    List (Scenario σ) → Recorded Progress σ (List (String × Outcome))
  | [] => pure []
  | scenario :: rest => do
    let outcome ← runScenario site scenario
    if outcome.isFailed then do
      log .warn s!"stopping after {scenario.name}; {rest.length} scenarios not run"
      pure [(scenario.name, outcome)]
    else do
      let results ← runScenarios site rest
      pure ((scenario.name, outcome) :: results)

def run (suite : Suite σ) : Recorded Progress σ Report := do
  let planned := suite.scenarios.length
  let privileges := suite.site.privileges.text
  log .info s!"running {planned} scenarios against {suite.site.base} ({privileges})"
  let results ← runScenarios suite.site suite.scenarios
  let report : Report := ⟨planned, results⟩
  notify (.suiteFinished report)
  pure report

end Suite

end CopyUp
