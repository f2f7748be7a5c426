import CopyUp.Command.Arguments
import CopyUp.Suite.Console
import CopyUp.Suite.Run
import CopyUp.Text.Blank

/-!
# Executing the command

The command reads its words, does what they ask for over a kernel, and leaves an exit code, two
streams of text and a log.
-/

namespace CopyUp.Command

/-! ## How much is logged -/

inductive Threshold
  | off
  | error
  | warn
  | info
  | debug
  | trace
  deriving DecidableEq, Repr

namespace Threshold

def rank : Threshold → Nat
  | off => 0
  | error => 1
  | warn => 2
  | info => 3
  | debug => 4
  | trace => 5

def ofSeverity : Severity → Threshold
  | .error => error
  | .warn => warn
  | .info => info
  | .debug => debug

def admits (threshold : Threshold) (line : LogLine) : Bool :=
  (ofSeverity line.severity).rank ≤ threshold.rank

def ofVerbosity : Nat → Threshold
  | 0 => warn
  | 1 => info
  | 2 => debug
  | _ => trace

def ofName? : String → Option Threshold
  | "off" => some off
  | "error" => some error
  | "warn" => some warn
  | "info" => some info
  | "debug" => some debug
  | "trace" => some trace
  | _ => none

/-- The word in which a threshold is preset: case and blanks around it do not matter, nothing at
all stands for errors only, and a word that is no threshold lets nothing through. -/
def ofPreset (text : String) : Threshold :=
  let word := (Text.trimmed text).map Char.toLower
  if word = "" then error else (ofName? word).getD off

end Threshold

/-! ## What is printed -/

/-- A text filled up with blanks to a width. -/
def padded (width : Nat) (text : String) : String :=
  text ++ String.ofList (List.replicate (width - text.length) ' ')

/-- A line of the catalog: the check, the trigger and the file. -/
def catalogLine (check trigger file : String) : String :=
  s!"{padded 18 check} {padded 10 trigger} {file}\n"

def catalogText : String :=
  String.join (Trigger.all.map fun trigger =>
    catalogLine trigger.scenarioName trigger.name trigger.fixture) ++
  catalogLine Scenario.Enumeration.name "-" defaultEntry

def versionText : String := "ovlcheck 0.1.0\n"

/-- A log line as a stream that is no terminal shows it. -/
def printedLine (line : LogLine) : LogLine :=
  { line with text := Text.withoutControls line.text }

/-- What keeps a request from being carried out, and the error that it comes from. -/
structure Problem where
  context : String
  source : IoError
  deriving DecidableEq, Repr

def Problem.text (problem : Problem) : String :=
  s!"Error: {problem.context}\n\nCaused by:\n    {problem.source.message}\n"

/-! ## What the outside sees -/

/-- What the surroundings preset: a base for runs and a threshold for the log. -/
structure Presets where
  base : Option String := none
  threshold : Option String := none

structure Completion where
  exitCode : Nat
  out : Bytes := []
  err : Bytes := []
  /-- The log lines that the threshold lets through, as they are printed. -/
  log : List LogLine := []
  calls : List Call := []

/-- What a request comes to: an exit code, what to print at the end, and what went wrong. -/
structure Ending where
  exitCode : Nat
  out : String := ""
  problem : Option Problem := none

/-- The completion of a recorded request, seen on a console. -/
def Completion.ofRan {σ : Type} (threshold : Threshold) (ran : Ran Progress σ Ending) :
    Completion :=
  let (console, log) := Console.follow {} ran.record
  { exitCode := ran.value.exitCode
    out := console.out.held ++ .ofText ran.value.out
    err := console.err.held ++ .ofText (ran.value.problem.elim "" Problem.text)
    log := (log.filter threshold.admits).map printedLine
    calls := (Progress.trace ran.record).calls }

variable {σ : Type} [Kernel σ]

/-- Runs the suite of a plan, once its directories are found. The two lines that the command itself
logs, a dump of its settings before and one of the failure after, are left out. -/
def serveRun (host : Host) (plan : Plan) : Recorded Progress σ Ending := do
  match ← (Suite.standard host plan).run.mapRecord .event with
  | .ok suite =>
    let report ← suite.run
    pure { exitCode := report.exitCode }
  | .error error =>
    let context := s!"cannot use {plan.base} as the directory under test"
    pure { exitCode := 1, problem := some ⟨context, error⟩ }

/-- Seeds a directory and prints what was written. -/
def serveSeed (directory : Path) : Recorded Progress σ Ending := do
  match ← (Fixture.seed directory).run.mapRecord .event with
  | .ok written => pure { exitCode := 0, out := String.join (written.map (· ++ "\n")) }
  | .error error =>
    pure { exitCode := 1, problem := some ⟨s!"failed to seed fixtures in {directory}", error⟩ }

/-- Does what was asked. -/
def serve (host : Host) : Request → Recorded Progress σ Ending
  | .run plan => serveRun host plan
  | .seed directory => serveSeed directory
  | .list => pure { exitCode := 0, out := catalogText }
  | .help => pure { exitCode := 0, out := about ++ "\n" }
  | .version => pure { exitCode := 0, out := versionText }

/-- The preset threshold wins over the count of demands for more output. -/
def thresholdFor (presets : Presets) (verbosity : Nat) : Threshold :=
  match presets.threshold with
  | some text => .ofPreset text
  | none => .ofVerbosity verbosity

/-- Runs the command over a kernel. -/
def execute (host : Host) (presets : Presets) (words : List String) (kernel : σ) : Completion :=
  match parse presets.base words with
  | .error error => { exitCode := 2, err := .ofText (error.message ++ "\n") }
  | .ok invocation =>
    Completion.ofRan (thresholdFor presets invocation.verbosity)
      ((serve host invocation.request).run kernel)

end CopyUp.Command
