import CopyUp.Kernel.IoError

/-!
# Triggers

A trigger is a family of calls that make a layered file system copy a file up before they change
it. Each has a fixture file of its own, and each tolerates certain errors as limits of the
environment.
-/

namespace CopyUp

/-- The triggers, in the order in which a suite runs them. -/
inductive Trigger
  | contentWrite
  | sizeChange
  | permissionChange
  | ownershipChange
  | rename
  | linkCreation
  | timestampChange
  | attributeSet
  | spacePreallocate
  deriving DecidableEq, Repr

namespace Trigger

def all : List Trigger :=
  [contentWrite, sizeChange, permissionChange, ownershipChange, rename, linkCreation,
    timestampChange, attributeSet, spacePreallocate]

theorem mem_all (trigger : Trigger) : trigger ∈ all := by
  cases trigger <;> decide

/-- The short name, as given on the command line. -/
def name : Trigger → String
  | contentWrite => "write"
  | sizeChange => "truncate"
  | permissionChange => "chmod"
  | ownershipChange => "chown"
  | rename => "rename"
  | linkCreation => "link"
  | timestampChange => "utimes"
  | attributeSet => "xattr"
  | spacePreallocate => "fallocate"

/-- The file in the lower layer that the trigger works on. -/
def fixture (trigger : Trigger) : String := "copyup_" ++ trigger.name ++ "_test.txt"

/-- The name of the scenario that exercises the trigger. -/
def scenarioName (trigger : Trigger) : String := "copyup-" ++ trigger.name

/-- Owners and attributes may be out of reach for lack of privilege. -/
def toleratesDenial : Trigger → Bool
  | ownershipChange | attributeSet => true
  | _ => false

/-! ## Names given by the user -/

def names : String := ", ".intercalate (all.map name)

def ofName? (text : String) : Option Trigger := all.find? fun trigger => trigger.name = text

end Trigger

/-- What came of one changing call. -/
inductive Effect
  | applied
  /-- The file system does not implement the call. -/
  | unsupported (errno : Errno)
  /-- The environment lacks the privilege for the call. -/
  | denied (errno : Errno)
  | failed (source : IoError)
  deriving DecidableEq, Repr

/-- Missing support is always tolerated, missing permission only on request. -/
def Effect.ofResult (toleratesDenial : Bool) : Except IoError Unit → Effect
  | .ok () => applied
  | .error (.os errno) =>
    if errno = .enosys ∨ errno = .eopnotsupp then unsupported errno
    else if errno = .eperm ∧ toleratesDenial then denied errno
    else failed (.os errno)
  | .error source => failed source

end CopyUp
