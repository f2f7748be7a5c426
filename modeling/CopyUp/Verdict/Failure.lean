import CopyUp.Directory.Record
import CopyUp.Kernel.IoError
import CopyUp.Text.Quoted

/-!
# Failures

A failure is what makes a file system non-conforming: a check that did not hold, or a call that
went wrong where no error is tolerated.
-/

namespace CopyUp

/-- Why a directory could not be listed. -/
inductive ListingError
  | call (source : IoError)
  | malformed (source : Directory.RecordError)
  deriving DecidableEq, Repr

def ListingError.message : ListingError → String
  | call source => s!"getdents64 failed: {source.message}"
  | malformed source => s!"malformed getdents64 buffer: {source.message}"

inductive Failure
  /-- A query after `operation` reported another identity than the snapshot. -/
  | identityChanged (operation : String) (expected observed : Identity)
  /-- A name that must resolve after `operation` does not. -/
  | vanished (operation : String) (path : Path)
  /-- A name that must be gone after `operation` still resolves. -/
  | stillPresent (operation : String) (path : Path) (identity : Identity)
  | linkCount (operation : String) (path : Path) (minimum observed : UInt64)
  /-- A call went wrong that had to work. -/
  | call (operation : String) (source : IoError)
  | unexpectedSuccess (operation : String) (expected : Errno)
  | wrongError (operation : String) (expected : Errno) (observed : IoError)
  | emptyListing (path : Path)
  | missingEntry (path : Path) (name : String)
  | wrongEntryKind (name : String) (expected observed : Directory.EntryKind)
  | listing (path : Path) (source : ListingError)
  deriving DecidableEq, Repr

def Failure.message : Failure → String
  | identityChanged operation expected observed =>
    s!"identity changed after {operation}: was {expected.text}, now {observed.text}"
  | vanished operation path => s!"{path} no longer exists after {operation}"
  | stillPresent operation path identity =>
    s!"{path} still resolves after {operation} ({identity.text})"
  | linkCount operation path minimum observed =>
    s!"link count of {path} is {observed} after {operation}, expected at least {minimum}"
  | call operation source => s!"{operation} failed: {source.message}"
  | unexpectedSuccess operation expected =>
    s!"{operation} succeeded, expected {expected.label}"
  | wrongError operation expected observed =>
    s!"{operation} failed with {observed.message}, expected {expected.label}"
  | emptyListing path => s!"enumerating {path} returned no entries"
  | missingEntry path name => s!"{Text.quoted name} not found while enumerating {path}"
  | wrongEntryKind name expected observed =>
    s!"{Text.quoted name} listed as {observed.name}, expected {expected.name}"
  | listing path source => s!"enumerating {path}: {source.message}"

end CopyUp
