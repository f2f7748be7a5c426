import CopyUp.Kernel.Errno

/-!
# Errors of file operations

A file operation fails with the kernel's error number, or before any call is made (a path that
cannot be passed on), or between calls (a write that takes nothing).
-/

namespace CopyUp

/-- The broad kind of an error that carries no error number. -/
inductive IoError.Kind
  | notFound
  | permissionDenied
  | unsupported
  | invalidInput
  | writeZero
  | unexpectedEof
  | other
  deriving DecidableEq, Repr

inductive IoError
  /-- The kernel answered this number. -/
  | os (errno : Errno)
  /-- The operation gave up by itself. -/
  | custom (kind : IoError.Kind) (text : String)
  deriving DecidableEq, Repr

namespace IoError

/-- A write was offered bytes and took none. -/
def nothingWritten : IoError := .custom .writeZero "failed to write whole buffer"

/-- The kernel's number, if the kernel is the cause. -/
def errno? : IoError → Option Errno
  | .os errno => some errno
  | .custom .. => none

def message : IoError → String
  | .os errno => s!"{errno.message} (os error {errno.code})"
  | .custom _ text => text

end IoError

end CopyUp
