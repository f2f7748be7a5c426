import CopyUp.FileSystem
import CopyUp.Verdict.Demand

/-!
# Snapshots

A snapshot is the identity that a fixture had before anything was done to it. The checks ask the
file system again, by path, by link and by descriptor, and compare the answers with it. What was
observed is logged before it is judged.
-/

namespace CopyUp

structure Snapshot where
  expected : Identity
  deriving DecidableEq, Repr

namespace Snapshot

open Attempt (strictly)

variable {σ : Type} [Kernel σ]

/-- An observed identity must be the expected one. -/
def compare (snapshot : Snapshot) (observed : Identity) (after : String) :
    Attempt σ Failure Unit :=
  if observed = snapshot.expected then pure ()
  else throw (.identityChanged after snapshot.expected observed)

/-- The path leads to the file of the snapshot. -/
def stable (snapshot : Snapshot) (path : Path) (after : String) : Attempt σ Failure Unit := do
  let some metadata ← strictly "stat" (FileSystem.lookup .identity path)
    | throw (.vanished after path)
  Attempt.log .debug s!"stat {path} after {after}: {metadata.identity.text}"
  snapshot.compare metadata.identity after

/-- The name itself, no symbolic link followed, is the file of the snapshot. -/
def stableLink (snapshot : Snapshot) (path : Path) (after : String) : Attempt σ Failure Unit := do
  let some metadata ← strictly "lstat" (FileSystem.lookupLink .identity path)
    | throw (.vanished after path)
  Attempt.log .debug s!"lstat {path} after {after}: {metadata.identity.text}"
  snapshot.compare metadata.identity after

/-- The open file is the file of the snapshot. -/
def stableOpen (snapshot : Snapshot) (fd : Descriptor) (after : String) :
    Attempt σ Failure Unit := do
  let metadata ← strictly "fstat" (FileSystem.inspect .identity fd)
  Attempt.log .debug s!"fstat after {after}: {metadata.identity.text}"
  snapshot.compare metadata.identity after

/-- How a file is opened only to ask about it. -/
def handleFlags : OpenFlags := { access := .readOnly, noFollow := true, pathOnly := true }

/-- The path, the name itself and a handle opened on it all stand for the file of the snapshot. -/
def stableAll (snapshot : Snapshot) (path : Path) (after : String) : Attempt σ Failure Unit := do
  snapshot.stable path after
  snapshot.stableLink path after
  FileSystem.withFile
    (strictly "open(O_PATH)" (FileSystem.issue .acquire (.openFile path handleFlags)))
    fun fd => snapshot.stableOpen fd after

/-- The path leads nowhere. -/
def absent (path : Path) (after : String) : Attempt σ Failure Unit := do
  match ← strictly "stat" (FileSystem.lookup .absence path) with
  | none => Attempt.log .debug s!"stat {path} after {after}: no such entry"
  | some metadata => throw (.stillPresent after path metadata.identity)

/-- The file has at least so many names. -/
def linkCount (path : Path) (minimum : UInt64) (after : String) : Attempt σ Failure Unit := do
  let some metadata ← strictly "stat" (FileSystem.lookup .linkCount path)
    | throw (.vanished after path)
  Attempt.log .debug s!"nlink {path} after {after}: {metadata.linkCount}"
  if metadata.linkCount < minimum then
    throw (.linkCount after path minimum metadata.linkCount)

end Snapshot

end CopyUp
