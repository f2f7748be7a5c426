import CopyUp.Session
import CopyUp.Verdict.Outcome

/-!
# Demands

Where an operation has to work its error is a failure, and where a check has to hold its failure
ends the scenario.
-/

namespace CopyUp.Attempt

variable {σ α : Type}

/-- An error of the named operation is a failure. -/
def strictly (operation : String) (attempt : Attempt σ IoError α) : Attempt σ Failure α :=
  explain (.call operation) attempt

/-- A failure ends the scenario. -/
def must (attempt : Attempt σ Failure α) : Attempt σ Interrupt α :=
  explain .fail attempt

end CopyUp.Attempt
