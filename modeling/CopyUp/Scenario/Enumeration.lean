import CopyUp.Directory.Listing
import CopyUp.Scenario.Run

/-!
# The listing check

Lists the target directory and looks for the expected entry, then probes two ways in which reading
a directory must fail: through a number that has been closed, and through a file that is no
directory.
-/

namespace CopyUp.Scenario.Enumeration

open Attempt (must strictly)

def name : String := "getdents64"

/-- Numbers from here on are not handed out again soon. -/
def parkingFloor : Nat := 256

/-- The lowest number to park a descriptor at: within the limit on open files. -/
def parkingNumber (limit : Except Errno UInt64) : Nat :=
  match limit with
  | .ok soft => min (soft.toNat - 1) parkingFloor
  | .error _ => parkingFloor

/-- The first entry of the name must be there and be a regular file. -/
def judgeListing (target : Path) (entry : String) (entries : List Directory.Entry) :
    Except Failure Unit :=
  match entries, entries.find? fun candidate => candidate.name = .ofText entry with
  | [], _ => .error (.emptyListing target)
  | _, none => .error (.missingEntry target entry)
  | _, some found =>
    if found.kind = .regular then .ok () else .error (.wrongEntryKind entry .regular found.kind)

variable {σ : Type} [Kernel σ]

def checkListing (target : Path) (entry : String) (fd : Descriptor) : Attempt σ Failure Unit := do
  let entries ← Attempt.explain (.listing target) (Directory.list fd)
  Attempt.log .debug s!"{name}: {entries.length} entries in {target}"
  Attempt.conclude (judgeListing target entry entries)

/-- Reading a directory must fail, and in the expected way. -/
def expectError (operation : String) (expected : Errno) (fd : Descriptor) :
    Attempt σ Failure Unit := do
  match ← Attempt.settle (Directory.fill .probe fd) with
  | .ok _ => throw (.unexpectedSuccess operation expected)
  | .error error =>
    if error = .os expected then
      Attempt.log .debug s!"{name}: {operation} failed with {expected.label} as expected"
    else throw (.wrongError operation expected error)

/-- Moves the open directory to a high number, out of the way of files opened elsewhere. Where
there is no such number the directory stays where it is. -/
def park (limit : Except Errno UInt64) (fd : Descriptor) : Attempt σ Failure Descriptor := do
  match ← Attempt.settle (FileSystem.issue .acquire (.dup fd (parkingNumber limit))) with
  | .ok parked =>
    FileSystem.release fd
    pure parked
  | .error error =>
    if error = .os .einval ∨ error = .os .emfile then
      Attempt.log .debug
        s!"{name}: no high descriptor slot ({error.message}), probing the original number"
      pure fd
    else
      FileSystem.release fd
      throw (.call "fcntl(F_DUPFD_CLOEXEC)" error)

/-- Closes the directory and reads from the number that it had. -/
def checkClosed (limit : Except Errno UInt64) (fd : Descriptor) : Attempt σ Failure Unit := do
  let parked ← park limit fd
  strictly "close" (discard (FileSystem.issue .relinquish (.close parked)))
  expectError "getdents64 (closed descriptor)" .ebadf parked

/-- The directory is released if the listing is wrong, and closed for the probe if it is right. -/
def checkDirectory (target : Path) (entry : String) (limit : Except Errno UInt64)
    (fd : Descriptor) : Attempt σ Failure Unit := do
  match ← Attempt.settle (checkListing target entry fd) with
  | .ok () => checkClosed limit fd
  | .error failure =>
    FileSystem.release fd
    throw failure

def directoryFlags : OpenFlags := { access := .readOnly, directory := true }

def fileFlags : OpenFlags := { access := .readOnly }

/-- Reading a regular file as a directory. -/
def checkFile (path : Path) : Attempt σ Failure Unit :=
  FileSystem.withFile
    (strictly "open(O_RDONLY)" (FileSystem.issue .acquire (.openFile path fileFlags)))
    fun fd => expectError "getdents64 (regular file)" .enotdir fd

/-- The checks that follow once the entry is known to be there. -/
def checkBoth (target : Path) (entry : String) (limit : Except Errno UInt64) :
    Attempt σ Failure Unit := do
  let directory := Call.openFile target directoryFlags
  let fd ← strictly "open(O_DIRECTORY)" (FileSystem.issue .acquire directory)
  checkDirectory target entry limit fd
  checkFile (target.join entry)

/-- Checks the listing of a directory. -/
def run (target : Path) (entry : String) (limit : Except Errno UInt64) :
    Attempt σ Interrupt Unit := do
  let path := target.join entry
  match ← must (strictly "lstat" (FileSystem.lookupLink .presence path)) with
  | some _ => must (checkBoth target entry limit)
  | none =>
    Attempt.log .info s!"{name}: {path} not present"
    throw (.skip (.entryMissing entry target))

end CopyUp.Scenario.Enumeration
