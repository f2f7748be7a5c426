import CopyUp.Kernel.Call

/-!
# Events

A session leaves a trace: every exchange with the kernel and every log line, in the order in which
they happened.
-/

namespace CopyUp

inductive Severity
  | error
  | warn
  | info
  | debug
  deriving DecidableEq, Repr

def Severity.name : Severity → String
  | error => "error"
  | warn => "warn"
  | info => "info"
  | debug => "debug"

structure LogLine where
  severity : Severity
  text : String
  deriving DecidableEq, Repr

/-- What a call is made for. The kernel does not see it; laws about a run use it to tell apart
calls of the same name. -/
inductive Purpose
  /-- The canonical form of a directory under test. -/
  | canonicalForm
  /-- The first look at a fixture, which fixes the expected identity. -/
  | snapshot
  /-- A query whose identity must equal the snapshot. -/
  | identity
  | linkCount
  | absence
  | presence
  | owner
  /-- A change under test. -/
  | change
  /-- A leftover of an earlier run, removed before the change. -/
  | stale
  /-- A file of this run, removed after its checks. -/
  | cleanUp
  /-- Opening a file or directory, or duplicating its number. -/
  | acquire
  /-- Closing a file that is no longer needed; the answer is ignored. -/
  | release
  /-- Closing a number so that it is closed; the answer matters. -/
  | relinquish
  | listing
  /-- A call that must fail in a certain way. -/
  | probe
  /-- Writing the fixtures. -/
  | seeding
  /-- A question asked for its own sake. -/
  | query
  deriving DecidableEq, Repr

inductive Event
  | exchange (purpose : Purpose) (exchange : Exchange)
  | log (line : LogLine)

namespace Event

def exchange? : Event → Option Exchange
  | .exchange _ answered => some answered
  | .log _ => none

def logLine? : Event → Option LogLine
  | .exchange .. => none
  | .log line => some line

end Event

abbrev Trace := List Event

namespace Trace

/-- The exchanges with the kernel. -/
def exchanges (trace : Trace) : List Exchange := trace.filterMap Event.exchange?

def calls (trace : Trace) : List Call := trace.exchanges.map Exchange.call

def logLines (trace : Trace) : List LogLine := trace.filterMap Event.logLine?

@[simp] theorem exchanges_append (first second : Trace) :
    exchanges (first ++ second) = exchanges first ++ exchanges second :=
  List.filterMap_append

@[simp] theorem calls_append (first second : Trace) :
    calls (first ++ second) = calls first ++ calls second := by
  simp [calls]

end Trace

end CopyUp
