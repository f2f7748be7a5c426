import CopyUp.Text.ControlSequence
import CopyUp.Text.Quoted
import CopyUp.Trigger

/-!
# Misuse of the command line

What can be wrong with the words that the command was given, and how it is told.
-/

namespace CopyUp.Command

inductive UsageError
  /-- No word asks for anything. -/
  | nothingAsked
  | missingSubcommand
  | unrecognizedSubcommand (word : String)
  | unexpectedArgument (word : String)
  | missingRequired
  | missingValue (argument : String)
  | unknownTrigger (argument value : String)
  | unexpectedValue (argument value : String)
  | repeated (argument : String)
  deriving DecidableEq, Repr

/-- Why a word is no trigger. -/
def unknownTriggerMessage (word : String) : String :=
  s!"unknown trigger {Text.quoted word} (expected one of: {Trigger.names})"

def about : String := "Command-line runner for the ovlcheck copy-up conformance suite"

/-- How a mistake is told on a terminal, where the words of the command line stand out. -/
def UsageError.styled : UsageError → String
  | nothingAsked => about
  | missingSubcommand => "error: 'ovlcheck' requires a subcommand but one was not provided"
  | unrecognizedSubcommand word => s!"error: unrecognized subcommand '{Text.highlighted word}'"
  | unexpectedArgument word => s!"error: unexpected argument '{Text.highlighted word}' found"
  | missingRequired => "error: the following required arguments were not provided:"
  | missingValue argument => s!"error: a value is required for '{argument}' but none was supplied"
  | unknownTrigger argument value =>
    let reason := unknownTriggerMessage value
    s!"error: invalid value '{Text.highlighted value}' for '{argument}': {reason}"
  | unexpectedValue argument value =>
    let word := Text.highlighted value
    s!"error: unexpected value '{word}' for '{argument}' found; no more were expected"
  | repeated argument => s!"error: the argument '{argument}' cannot be used multiple times"

/-- How a mistake is told on a stream that is no terminal. -/
def UsageError.message (error : UsageError) : String := Text.withoutControls error.styled

end CopyUp.Command
