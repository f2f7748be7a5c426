import CopyUp.Host
import CopyUp.Verdict.Failure

/-!
# Outcomes

A check passes, is skipped because the environment does not let it say anything, or fails.
-/

namespace CopyUp

/-- Why a check says nothing about the file system. -/
inductive SkipReason
  | fixtureMissing (fixture : String)
  | entryMissing (entry : String) (directory : Path)
  | unsupported (operation : String) (errno : Errno)
  | denied (operation : String) (errno : Errno) (privileges : Privileges)
  /-- A reason in the words of the check itself. -/
  | stated (text : String)
  deriving DecidableEq, Repr

def SkipReason.text : SkipReason → String
  | fixtureMissing fixture => s!"{fixture} not in base layer"
  | entryMissing entry directory => s!"{entry} not in {directory}"
  | unsupported operation errno => s!"{operation} not supported ({errno.label})"
  | denied operation errno privileges =>
    s!"{operation} not permitted ({errno.label}; {privileges.text})"
  | stated text => text

/-- What ends a check before it has passed. -/
inductive Interrupt
  | skip (reason : SkipReason)
  | fail (failure : Failure)
  deriving DecidableEq, Repr

inductive Outcome
  | passed
  | skipped (reason : SkipReason)
  | failed (failure : Failure)
  deriving DecidableEq, Repr

namespace Outcome

def ofResult : Except Interrupt Unit → Outcome
  | .ok () => passed
  | .error (.skip reason) => skipped reason
  | .error (.fail failure) => failed failure

def isPassed : Outcome → Bool
  | passed => true
  | _ => false

def isSkipped : Outcome → Bool
  | skipped _ => true
  | _ => false

def isFailed : Outcome → Bool
  | failed _ => true
  | _ => false

def text : Outcome → String
  | passed => "passed"
  | skipped reason => s!"skipped: {reason.text}"
  | failed failure => s!"failed: {failure.message}"

end Outcome

end CopyUp
