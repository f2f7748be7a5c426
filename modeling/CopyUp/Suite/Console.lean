import CopyUp.Kernel.IoError
import CopyUp.Suite.Progress

/-!
# The console

The console turns notices into status lines: passes, skips and the summary on one stream, failures
on the other. A stream may be limited; it keeps the bytes that fit and refuses the rest. What could
not be shown is logged and changes nothing else.
-/

namespace CopyUp

/-- A stream that takes a number of bytes in all, or any number. -/
structure Sink where
  limit : Option Nat := none
  held : Bytes := []
  deriving DecidableEq, Repr

namespace Sink

/-- How many of so many bytes still fit. -/
def room (sink : Sink) (wanted : Nat) : Nat :=
  match sink.limit with
  | none => wanted
  | some limit => min wanted (limit - sink.held.length)

/-- Appends what fits, and tells whether that was all. -/
def write (sink : Sink) (bytes : Bytes) : Sink × Bool :=
  ({ sink with held := sink.held ++ bytes.take (sink.room bytes.length) },
    sink.room bytes.length = bytes.length)

end Sink

structure Console where
  out : Sink := {}
  err : Sink := {}
  /-- What flushing the output stream answers. -/
  flushed : Except IoError Unit := .ok ()

namespace Console

/-- The counts of a report on one line; the checks that did not run only if there are any. -/
def summary (report : Report) : String :=
  let counts := s!"{report.passed} passed, {report.skipped} skipped, {report.failed} failed"
  if report.notRun = 0 then counts else counts ++ s!", {report.notRun} not run"

/-- The line that a notice puts on the output stream. -/
def outLine : Notice → Option String
  | .finished name .passed => some s!"PASS {name}\n"
  | .finished name (.skipped reason) => some s!"SKIP {name}: {reason.text}\n"
  | .suiteFinished report => some (summary report ++ "\n")
  | _ => none

/-- The line that a notice puts on the error stream. -/
def errLine : Notice → Option String
  | .finished name (.failed failure) => some s!"FAIL {name}: {failure.message}\n"
  | _ => none

/-- A stream that is full refuses with this error. -/
def full : IoError := .os .enospc

/-- What the log says when the line of a notice could not be shown. -/
def complaint (error : IoError) : Notice → Option LogLine
  | .started _ => none
  | .finished name _ => some ⟨.error, s!"failed to write status of {name}: {error.message}"⟩
  | .suiteFinished _ => some ⟨.error, s!"failed to write summary: {error.message}"⟩

/-- Writes the lines of a notice and flushes after the summary. The result is the error met. -/
def display (console : Console) (notice : Notice) : Console × Except IoError Unit :=
  let (out, outWhole) := console.out.write ((outLine notice).elim [] Bytes.ofText)
  let (err, errWhole) := console.err.write ((errLine notice).elim [] Bytes.ofText)
  let result :=
    if outWhole && errWhole then
      match notice with
      | .suiteFinished _ => console.flushed
      | _ => .ok ()
    else .error full
  ({ console with out, err }, result)

/-- Receives a notice, and tells what goes to the log on that account. -/
def receive (console : Console) (notice : Notice) : Console × List LogLine :=
  match console.display notice with
  | (next, .ok ()) => (next, [])
  | (next, .error error) => (next, (complaint error notice).toList)

/-- Follows the record of a suite. The log lines are those of the record with the console's own in
between. -/
def follow (console : Console) : List Progress → Console × List LogLine
  | [] => (console, [])
  | .event (.exchange ..) :: rest => console.follow rest
  | .event (.log line) :: rest =>
    let (last, lines) := console.follow rest
    (last, line :: lines)
  | .notice notice :: rest =>
    let (next, own) := console.receive notice
    let (last, lines) := next.follow rest
    (last, own ++ lines)

end Console

end CopyUp
