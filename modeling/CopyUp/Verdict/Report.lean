import CopyUp.Verdict.Outcome

/-!
# Reports

A report holds the outcomes of the checks that ran, in order, beside the number that was planned.
-/

namespace CopyUp

structure Report where
  planned : Nat
  results : List (String × Outcome)
  deriving DecidableEq, Repr

namespace Report

def passed (report : Report) : Nat := report.results.countP (·.2.isPassed)

def skipped (report : Report) : Nat := report.results.countP (·.2.isSkipped)

def failed (report : Report) : Nat := report.results.countP (·.2.isFailed)

/-- Checks that were planned and did not get their turn. -/
def notRun (report : Report) : Nat := report.planned - report.results.length

/-- The first failure, with the name of its check. -/
def failure? (report : Report) : Option (String × Failure) :=
  report.results.findSome? fun
    | (name, .failed failure) => some (name, failure)
    | _ => none

def success (report : Report) : Bool := report.failure?.isNone

def exitCode (report : Report) : Nat := if report.success then 0 else 1

/-- The outcome of the first check of that name that ran. -/
def outcome? (report : Report) (name : String) : Option Outcome :=
  report.results.lookup name

end Report

end CopyUp
