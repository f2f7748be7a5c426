import CopyUp.Event
import CopyUp.Verdict.Report

/-!
# Progress of a suite

A suite tells of the start and the end of each scenario, and of its own end. Its record holds these
notices between the events of the scenarios.
-/

namespace CopyUp

inductive Notice
  | started (scenario : String)
  | finished (scenario : String) (outcome : Outcome)
  | suiteFinished (report : Report)
  deriving DecidableEq, Repr

inductive Progress
  | event (event : Event)
  | notice (notice : Notice)

namespace Progress

def event? : Progress → Option Event
  | .event happened => some happened
  | .notice _ => none

def notice? : Progress → Option Notice
  | .event _ => none
  | .notice told => some told

/-- The events of a record, its notices left out. -/
def trace (record : List Progress) : Trace := record.filterMap event?

def notices (record : List Progress) : List Notice := record.filterMap notice?

@[simp] theorem trace_append (first second : List Progress) :
    trace (first ++ second) = trace first ++ trace second :=
  List.filterMap_append

@[simp] theorem notices_append (first second : List Progress) :
    notices (first ++ second) = notices first ++ notices second :=
  List.filterMap_append

@[simp] theorem trace_map_event (events : Trace) : trace (events.map event) = events := by
  induction events <;> simp_all [trace, event?]

@[simp] theorem notices_map_event (events : Trace) : notices (events.map event) = [] := by
  induction events <;> simp_all [notices, notice?]

end Progress

end CopyUp
