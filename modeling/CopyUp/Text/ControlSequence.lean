/-!
# Control sequences

A terminal takes some characters as orders. A control character acts by itself, and an escape
character opens a sequence that goes on until a character that ends it. A stream that is no
terminal shows neither.
-/

namespace CopyUp.Text

/-- A control sequence that has begun and has not ended. -/
inductive OpenSequence
  /-- An escape character, and nothing after it. -/
  | escape
  /-- An escape character and punctuation, to which one more character belongs. -/
  | escapeIntermediate
  /-- The parameters of a function of the terminal, which its letter ends. -/
  | parameters
  /-- The beginning of a string for a device. -/
  | deviceEntry
  | deviceParameters
  | deviceIntermediate
  /-- The body of a string for a device, or a string that no one reads. -/
  | controlString
  /-- A command for the system around the terminal, which a bell ends. -/
  | command
  deriving DecidableEq, Repr

/-- Control characters that lay out a text. -/
def isLayout (c : Char) : Bool := c = '\t' || c = '\n' || c = '\x0c' || c = '\r'

/-- Characters that a stream shows: all but the control characters of the first half of the
code, of which it shows those that lay out the text. -/
def isVisible (c : Char) : Bool := isLayout c || (' ' ≤ c && c ≠ '\x7f')

def isAscii (c : Char) : Bool := c.toNat < 0x80

/-- The byte that ends a string ends it also where it is part of a longer character. -/
def endsString (c : Char) : Bool := (String.utf8EncodeChar c).contains 0x9C

namespace OpenSequence

/-- Whether characters that lay out the text are shown although the sequence is open. -/
def admitsLayout : OpenSequence → Bool
  | escape | escapeIntermediate | parameters => true
  | _ => false

/-- What is open after one more character; nothing if that character ends the sequence. -/
def advance (c : Char) : OpenSequence → Option OpenSequence
  | escape =>
    if ' ' ≤ c && c ≤ '/' then some escapeIntermediate
    else if c = '[' then some parameters
    else if c = ']' then some command
    else if c = 'P' then some deviceEntry
    else if c = 'X' || c = '^' || c = '_' then some controlString
    else if '0' ≤ c && c ≤ '~' then none
    else some escape
  | escapeIntermediate => if '0' ≤ c && c ≤ '~' then none else some escapeIntermediate
  | parameters => if '@' ≤ c && c ≤ '~' then none else some parameters
  | deviceEntry =>
    if ' ' ≤ c && c ≤ '/' then some deviceIntermediate
    else if '0' ≤ c && c ≤ '?' then some deviceParameters
    else if '@' ≤ c && c ≤ '~' then some controlString
    else some deviceEntry
  | deviceParameters =>
    if ' ' ≤ c && c ≤ '/' then some deviceIntermediate
    else if '<' ≤ c && c ≤ '~' then some controlString
    else some deviceParameters
  | deviceIntermediate =>
    if '0' ≤ c && c ≤ '~' then some controlString else some deviceIntermediate
  | controlString => if endsString c then none else some controlString
  | command => if c = '\x07' then none else some command

end OpenSequence

/-! ## Reading a text -/

/-- Where the reading of a text stands. -/
structure Reading where
  sequence : Option OpenSequence := none
  /-- The open sequence rests: a character that lays out the text came in between, and the text
  is shown again. A hidden character goes on with the sequence, one beyond ASCII drops it. -/
  suspended : Bool := false
  deriving DecidableEq, Repr

namespace Reading

def shows (reading : Reading) (c : Char) : Bool :=
  if reading.suspended || reading.sequence.isNone then isVisible c
  else isLayout c && reading.sequence.any OpenSequence.admitsLayout

/-- An escape character opens a sequence wherever it stands, and two characters cancel whatever
is open. -/
def after (reading : Reading) (c : Char) : Reading :=
  if c = '\x1b' then ⟨some .escape, false⟩
  else if c = '\x18' || c = '\x1a' then {}
  else
    match reading.sequence with
    | none => {}
    | some sequence =>
      if reading.suspended then
        if isAscii c then ⟨some sequence, isVisible c⟩ else {}
      else if isLayout c && sequence.admitsLayout then ⟨some sequence, true⟩
      else ⟨sequence.advance c, false⟩

end Reading

/-- The characters that are shown from some point of the reading on. -/
def shownFrom (reading : Reading) : List Char → List Char
  | [] => []
  | c :: rest =>
    if reading.shows c then c :: shownFrom (reading.after c) rest
    else shownFrom (reading.after c) rest

/-- What a stream that is no terminal shows of a text. -/
def withoutControls (text : String) : String := String.ofList (shownFrom {} text.toList)

/-! ## Highlighted words -/

/-- The sequence that starts the style of a highlighted word. -/
def highlightStyle : String := "\x1b[33m"

/-- The sequence that goes back to the plain style. -/
def plainStyle : String := "\x1b[0m"

/-- A word that stands out on a terminal. -/
def highlighted (word : String) : String := highlightStyle ++ word ++ plainStyle

end CopyUp.Text
