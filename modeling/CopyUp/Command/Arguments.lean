import CopyUp.Command.Usage
import CopyUp.Plan

/-!
# Command-line arguments

The words of the command line are read from left to right. A value is taken in as a word first and
looked at only when the next argument or the end shows that it is complete; a word that fits nowhere
is reported before a value that is still waiting. Options end at a double dash.
-/

namespace CopyUp.Command

inductive Subcommand
  | run
  | seed
  | list
  deriving DecidableEq, Repr

/-- Options that take a value. -/
inductive ValueOption
  | only
  | directory
  | entry
  deriving DecidableEq, Repr

/-- Options that take none. -/
inductive Flag
  | verbose
  | noEnumeration
  | help
  | version
  deriving DecidableEq, Repr

inductive Switch
  | flag (flag : Flag)
  | valued (option : ValueOption)
  deriving DecidableEq, Repr

/-- What a command line asks for. -/
inductive Request
  | run (plan : Plan)
  | seed (directory : Path)
  | list
  | help
  | version
  deriving DecidableEq, Repr

structure Invocation where
  request : Request
  /-- How often more output was asked for. -/
  verbosity : Nat := 0
  deriving DecidableEq, Repr

/-- Why reading stops early: a mistake, or a request that needs nothing further. -/
inductive Stop
  | usage (error : UsageError)
  | request (request : Request)
  deriving DecidableEq, Repr

namespace Subcommand

def ofWord? : String → Option Subcommand
  | "run" => some run
  | "seed" => some seed
  | "list" => some list
  | _ => none

/-- How the positional argument is shown, if there is one. -/
def positional? : Subcommand → Option String
  | run => some "<BASE>"
  | seed => some "<DIR>"
  | list => none

end Subcommand

def ValueOption.shown : ValueOption → String
  | only => "--only <TRIGGER>"
  | directory => "--enumeration-dir <DIR>"
  | entry => "--enumeration-entry <NAME>"

def Flag.shown : Flag → String
  | verbose => "--verbose..."
  | noEnumeration => "--no-enumeration"
  | help => "--help"
  | version => "--version"

/-- The options known by a long name; outside any subcommand there is no subcommand given. -/
def longSwitch? (subcommand : Option Subcommand) (name : String) : Option Switch :=
  match subcommand, name with
  | _, "verbose" => some (.flag .verbose)
  | _, "help" => some (.flag .help)
  | none, "version" => some (.flag .version)
  | some .run, "only" => some (.valued .only)
  | some .run, "no-enumeration" => some (.flag .noEnumeration)
  | some .run, "enumeration-dir" => some (.valued .directory)
  | some .run, "enumeration-entry" => some (.valued .entry)
  | _, _ => none

/-- The options known by a letter. -/
def shortFlag? (subcommand : Option Subcommand) (letter : Char) : Option Flag :=
  match subcommand, letter with
  | _, 'v' => some .verbose
  | _, 'h' => some .help
  | none, 'V' => some .version
  | _, _ => none

/-! ## Shapes of words -/

inductive Word
  /-- A double dash, which ends the options. -/
  | endOfOptions
  | long (name : String) (attached : Option String)
  | short (letters : List Char)
  | plain (text : String)
  deriving DecidableEq, Repr

/-- A long option ends at its first equals sign, and what follows is its value. -/
def Word.ofLong (body : List Char) : Word :=
  let name := String.ofList (body.takeWhile (· ≠ '='))
  match body.dropWhile (· ≠ '=') with
  | [] => .long name none
  | _ :: value => .long name (some (String.ofList value))

def Word.ofText (text : String) : Word :=
  match text.toList with
  | ['-', '-'] => .endOfOptions
  | '-' :: '-' :: body => .ofLong body
  | ['-'] => .plain text
  | '-' :: letters => .short letters
  | _ => .plain text

/-! ## Reading inside a subcommand -/

/-- An argument whose words have begun and whose value has not been looked at. -/
inductive Pending
  | nothing
  | awaiting (option : ValueOption)
  | holding (option : ValueOption) (value : String)
  | positional (value : String)
  deriving DecidableEq, Repr

/-- What has been read so far. -/
structure Draft where
  verbosity : Nat := 0
  only : List Trigger := []
  noEnumeration : Bool := false
  directory : Option Path := none
  entry : Option String := none
  /-- The base of a run or the directory to seed. -/
  target : Option Path := none
  pending : Pending := .nothing
  deriving DecidableEq, Repr

namespace Draft

/-- A path is never empty. -/
def pathValue (shown value : String) : Except UsageError Path :=
  if value = "" then .error (.missingValue shown) else .ok value

def acceptOption (draft : Draft) (option : ValueOption) (value : String) :
    Except UsageError Draft :=
  match option with
  | .only =>
    match Trigger.ofName? value with
    | some trigger => .ok { draft with only := draft.only ++ [trigger] }
    | none => .error (.unknownTrigger option.shown value)
  | .directory =>
    if draft.directory.isSome then .error (.repeated option.shown)
    else do return { draft with directory := some (← pathValue option.shown value) }
  | .entry =>
    if draft.entry.isSome then .error (.repeated option.shown)
    else .ok { draft with entry := some value }

/-- Looks at the pending value. -/
def settle (subcommand : Subcommand) (draft : Draft) : Except UsageError Draft :=
  let settled := { draft with pending := .nothing }
  match draft.pending with
  | .nothing => .ok draft
  | .awaiting option => .error (.missingValue option.shown)
  | .holding option value => settled.acceptOption option value
  | .positional value => do
    let shown := subcommand.positional?.getD ""
    return { settled with target := some (← pathValue shown value) }

/-- Whether the positional argument has been given. -/
def hasTarget (draft : Draft) : Bool :=
  draft.target.isSome || draft.pending matches .positional _

def acceptFlag (draft : Draft) : Flag → Except Stop Draft
  | .verbose => .ok { draft with verbosity := draft.verbosity + 1 }
  | .noEnumeration =>
    if draft.noEnumeration then .error (.usage (.repeated Flag.noEnumeration.shown))
    else .ok { draft with noEnumeration := true }
  | .help => .error (.request .help)
  | .version => .error (.request .version)

def settleOrStop (subcommand : Subcommand) (draft : Draft) : Except Stop Draft :=
  (draft.settle subcommand).mapError .usage

/-- A positional word, or one too many. -/
def readPositional (subcommand : Subcommand) (draft : Draft) (word : String) :
    Except Stop Draft :=
  if subcommand.positional?.isSome ∧ ¬ draft.hasTarget then do
    return { ← draft.settleOrStop subcommand with pending := .positional word }
  else .error (.usage (.unexpectedArgument word))

/-- Letters after a single dash, each a flag of its own. -/
def readLetters (subcommand : Subcommand) (draft : Draft) : List Char → Except Stop Draft
  | [] => .ok draft
  | letter :: rest =>
    match shortFlag? (some subcommand) letter with
    | none => .error (.usage (.unexpectedArgument (String.ofList ['-', letter])))
    | some flag => do
      let settled ← draft.settleOrStop subcommand
      readLetters subcommand (← settled.acceptFlag flag) rest

def readLong (subcommand : Subcommand) (draft : Draft) (name : String)
    (attached : Option String) : Except Stop Draft :=
  match longSwitch? (some subcommand) name, attached with
  | none, _ => .error (.usage (.unexpectedArgument ("--" ++ name)))
  | some (.flag flag), some value => .error (.usage (.unexpectedValue flag.shown value))
  | some (.flag flag), none => do (← draft.settleOrStop subcommand).acceptFlag flag
  | some (.valued option), some value => do
    let settled ← draft.settleOrStop subcommand
    (settled.acceptOption option value).mapError .usage
  | some (.valued option), none => do
    return { ← draft.settleOrStop subcommand with pending := .awaiting option }

/-- Reads the words of a subcommand, the last of which settles what is pending. -/
def readWords (subcommand : Subcommand) (draft : Draft) (optionsEnded : Bool) :
    List String → Except Stop Draft
  | [] => draft.settleOrStop subcommand
  | text :: rest =>
    if optionsEnded then do
      readWords subcommand (← draft.readPositional subcommand text) true rest
    else
      match Word.ofText text, draft.pending with
      | .endOfOptions, _ => readWords subcommand draft true rest
      | .long name attached, _ => do
        readWords subcommand (← draft.readLong subcommand name attached) false rest
      | .short letters, _ => do
        readWords subcommand (← draft.readLetters subcommand letters) false rest
      | .plain value, .awaiting option =>
        readWords subcommand { draft with pending := .holding option value } false rest
      | .plain word, _ => do
        readWords subcommand (← draft.readPositional subcommand word) false rest

/-- The plan of a finished draft. -/
def plan (draft : Draft) (base : Path) : Plan where
  base
  only := draft.only
  enumeration := !draft.noEnumeration
  directory := draft.directory
  entry := draft.entry.getD defaultEntry

/-- The request of a finished draft. The base may come from outside the command line. -/
def request (subcommand : Subcommand) (draft : Draft) (presetBase : Option String) :
    Except UsageError Request :=
  match subcommand, draft.target with
  | .list, _ => .ok .list
  | .seed, some directory => .ok (.seed directory)
  | .seed, none => .error .missingRequired
  | .run, some base => .ok (.run (draft.plan base))
  | .run, none =>
    match presetBase with
    | some base => do return .run (draft.plan (← pathValue "<BASE>" base))
    | none => .error .missingRequired

end Draft

/-! ## Reading the whole line -/

/-- The words after `help` must name a subcommand, or help itself, and nothing more. -/
def readHelp : List String → Except UsageError Request
  | [] => .ok .help
  | word :: rest =>
    if (Subcommand.ofWord? word).isSome ∨ word = "help" then
      match rest with
      | [] => .ok .help
      | next :: _ => .error (.unrecognizedSubcommand next)
    else .error (.unrecognizedSubcommand word)

/-- Letters after a single dash in front of the subcommand; counts the demands for more output. -/
def readRootLetters (verbosity : Nat) : List Char → Except Stop Nat
  | [] => .ok verbosity
  | letter :: rest =>
    match shortFlag? none letter with
    | some .verbose => readRootLetters (verbosity + 1) rest
    | some .help => .error (.request .help)
    | some .version => .error (.request .version)
    | _ => .error (.usage (.unexpectedArgument (String.ofList ['-', letter])))

def readRootLong (verbosity : Nat) (name : String) (attached : Option String) :
    Except Stop Nat :=
  match longSwitch? none name, attached with
  | some (.flag flag), some value => .error (.usage (.unexpectedValue flag.shown value))
  | some (.flag .verbose), none => .ok (verbosity + 1)
  | some (.flag .help), none => .error (.request .help)
  | some (.flag .version), none => .error (.request .version)
  | _, _ => .error (.usage (.unexpectedArgument ("--" ++ name)))

/-- Reads a subcommand. A count given behind it counts, else the one in front. -/
def readSubcommand (presetBase : Option String) (verbosity : Nat) (subcommand : Subcommand)
    (words : List String) : Except Stop Invocation := do
  let draft ← ({} : Draft).readWords subcommand false words
  let request ← (draft.request subcommand presetBase).mapError .usage
  return ⟨request, if draft.verbosity = 0 then verbosity else draft.verbosity⟩

/-- A word that is no option, in front of any subcommand. After a double dash no word is one. -/
def misplaced (optionsEnded : Bool) (word : String) : UsageError :=
  if optionsEnded ∧ ((Subcommand.ofWord? word).isSome ∨ word = "help") then
    .unexpectedArgument word
  else .unrecognizedSubcommand word

def readRoot (presetBase : Option String) (verbosity : Nat) (optionsEnded : Bool) :
    List String → Except Stop Invocation
  | [] => .error (.usage (if verbosity = 0 then .nothingAsked else .missingSubcommand))
  | text :: rest =>
    if optionsEnded then .error (.usage (misplaced true text))
    else
      match Word.ofText text with
      | .endOfOptions => readRoot presetBase verbosity true rest
      | .long name attached => do
        readRoot presetBase (← readRootLong verbosity name attached) false rest
      | .short letters => do
        readRoot presetBase (← readRootLetters verbosity letters) false rest
      | .plain word =>
        match Subcommand.ofWord? word with
        | some subcommand => readSubcommand presetBase verbosity subcommand rest
        | none =>
          if word = "help" then do return ⟨← (readHelp rest).mapError .usage, verbosity⟩
          else .error (.usage (misplaced false word))

/-- What the words of a command line ask for. -/
def parse (presetBase : Option String) (words : List String) : Except UsageError Invocation :=
  match readRoot presetBase 0 false words with
  | .ok invocation => .ok invocation
  | .error (.request request) => .ok { request }
  | .error (.usage error) => .error error

end CopyUp.Command
